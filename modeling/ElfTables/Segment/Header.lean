import ElfTables.File.Class
import ElfTables.Bytes.Layout

namespace ElfTables

inductive SegmentField where
  | type
  | flags
  | offset
  | vaddr
  | paddr
  | filesz
  | memsz
  | align
  deriving DecidableEq, Repr

structure SegmentHeader where
  type : UInt32
  flags : UInt32
  offset : UInt64
  vaddr : UInt64
  paddr : UInt64
  filesz : UInt64
  memsz : UInt64
  align : UInt64
  deriving DecidableEq, Repr

namespace SegmentHeader

def layout : FileClass → Layout SegmentField
  | .bits32 =>
    [(.type, 4), (.offset, 4), (.vaddr, 4), (.paddr, 4), (.filesz, 4), (.memsz, 4), (.flags, 4),
      (.align, 4)]
  | .bits64 =>
    [(.type, 4), (.flags, 4), (.offset, 8), (.vaddr, 8), (.paddr, 8), (.filesz, 8), (.memsz, 8),
      (.align, 8)]

def ofFields (value : SegmentField → Nat) : SegmentHeader where
  type := (value .type).toUInt32
  flags := (value .flags).toUInt32
  offset := (value .offset).toUInt64
  vaddr := (value .vaddr).toUInt64
  paddr := (value .paddr).toUInt64
  filesz := (value .filesz).toUInt64
  memsz := (value .memsz).toUInt64
  align := (value .align).toUInt64

def field (header : SegmentHeader) : SegmentField → Nat
  | .type => header.type.toNat
  | .flags => header.flags.toNat
  | .offset => header.offset.toNat
  | .vaddr => header.vaddr.toNat
  | .paddr => header.paddr.toNat
  | .filesz => header.filesz.toNat
  | .memsz => header.memsz.toNat
  | .align => header.align.toNat

theorem ofFields_field (header : SegmentHeader) : ofFields header.field = header := by
  simp [ofFields, field]

def encode (fileClass : FileClass) (order : ByteOrder) (header : SegmentHeader) : List UInt8 :=
  (layout fileClass).encode order header.field

end SegmentHeader

end ElfTables

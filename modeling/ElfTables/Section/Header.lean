import ElfTables.File.Class
import ElfTables.Bytes.Layout

namespace ElfTables

inductive SectionField where
  | name
  | type
  | flags
  | addr
  | offset
  | size
  | link
  | info
  | addralign
  | entsize
  deriving DecidableEq, Repr

structure SectionHeader where
  /-- Where the section's name starts in the name table. -/
  name : UInt64
  type : UInt32
  flags : UInt64
  addr : UInt64
  offset : UInt64
  size : UInt64
  link : UInt32
  info : UInt32
  addralign : UInt64
  entsize : UInt64
  deriving DecidableEq, Repr

namespace SectionHeader

def stringTable : UInt32 := 3

def layout (fileClass : FileClass) : Layout SectionField :=
  [(.name, 4), (.type, 4), (.flags, fileClass.wordSize), (.addr, fileClass.wordSize),
    (.offset, fileClass.wordSize), (.size, fileClass.wordSize), (.link, 4), (.info, 4),
    (.addralign, fileClass.wordSize), (.entsize, fileClass.wordSize)]

def ofFields (value : SectionField → Nat) : SectionHeader where
  name := (value .name).toUInt64
  type := (value .type).toUInt32
  flags := (value .flags).toUInt64
  addr := (value .addr).toUInt64
  offset := (value .offset).toUInt64
  size := (value .size).toUInt64
  link := (value .link).toUInt32
  info := (value .info).toUInt32
  addralign := (value .addralign).toUInt64
  entsize := (value .entsize).toUInt64

def field (header : SectionHeader) : SectionField → Nat
  | .name => header.name.toNat
  | .type => header.type.toNat
  | .flags => header.flags.toNat
  | .addr => header.addr.toNat
  | .offset => header.offset.toNat
  | .size => header.size.toNat
  | .link => header.link.toNat
  | .info => header.info.toNat
  | .addralign => header.addralign.toNat
  | .entsize => header.entsize.toNat

theorem ofFields_field (header : SectionHeader) : ofFields header.field = header := by
  simp [ofFields, field]

def encode (fileClass : FileClass) (order : ByteOrder) (header : SectionHeader) : List UInt8 :=
  (layout fileClass).encode order header.field

end SectionHeader

end ElfTables

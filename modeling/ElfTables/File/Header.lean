import ElfTables.File.Class
import ElfTables.ReadError

namespace ElfTables

def byteAt (bytes : Array UInt8) (index : Nat) : UInt8 := bytes.getD index 0

namespace Identification

def magic : List UInt8 := [0x7f, 0x45, 0x4c, 0x46]

def size : Nat := 16

def classIndex : Nat := 4

def orderIndex : Nat := 5

def versionIndex : Nat := 6

def currentVersion : UInt8 := 1

end Identification

inductive FileField where
  | type
  | machine
  | version
  | entry
  | phoff
  | shoff
  | flags
  | ehsize
  | phentsize
  | phnum
  | shentsize
  | shnum
  | shstrndx
  deriving DecidableEq, Repr

structure FileHeader where
  fileClass : FileClass
  order : ByteOrder
  type : UInt16
  machine : UInt16
  version : UInt32
  entry : UInt64
  phoff : UInt64
  shoff : UInt64
  flags : UInt32
  ehsize : UInt16
  phentsize : UInt16
  phnum : UInt16
  shentsize : UInt16
  shnum : UInt16
  shstrndx : UInt16
  deriving DecidableEq, Repr

namespace FileHeader

def layout (fileClass : FileClass) : Layout FileField :=
  [(.type, 2), (.machine, 2), (.version, 4), (.entry, fileClass.wordSize),
    (.phoff, fileClass.wordSize), (.shoff, fileClass.wordSize), (.flags, 4), (.ehsize, 2),
    (.phentsize, 2), (.phnum, 2), (.shentsize, 2), (.shnum, 2), (.shstrndx, 2)]

def size (fileClass : FileClass) : Nat := Identification.size + (layout fileClass).size

/-- No object is shorter than the header of the smaller class. -/
def minimumSize : Nat := size .bits32

def ofFields (fileClass : FileClass) (order : ByteOrder) (value : FileField → Nat) :
    FileHeader where
  fileClass := fileClass
  order := order
  type := (value .type).toUInt16
  machine := (value .machine).toUInt16
  version := (value .version).toUInt32
  entry := (value .entry).toUInt64
  phoff := (value .phoff).toUInt64
  shoff := (value .shoff).toUInt64
  flags := (value .flags).toUInt32
  ehsize := (value .ehsize).toUInt16
  phentsize := (value .phentsize).toUInt16
  phnum := (value .phnum).toUInt16
  shentsize := (value .shentsize).toUInt16
  shnum := (value .shnum).toUInt16
  shstrndx := (value .shstrndx).toUInt16

def field (header : FileHeader) : FileField → Nat
  | .type => header.type.toNat
  | .machine => header.machine.toNat
  | .version => header.version.toNat
  | .entry => header.entry.toNat
  | .phoff => header.phoff.toNat
  | .shoff => header.shoff.toNat
  | .flags => header.flags.toNat
  | .ehsize => header.ehsize.toNat
  | .phentsize => header.phentsize.toNat
  | .phnum => header.phnum.toNat
  | .shentsize => header.shentsize.toNat
  | .shnum => header.shnum.toNat
  | .shstrndx => header.shstrndx.toNat

theorem ofFields_field (header : FileHeader) :
    ofFields header.fileClass header.order header.field = header := by
  simp [ofFields, field]

/-- The class byte is looked at first, then the byte order, then the fields. The version byte
plays no part. -/
def decode (bytes : Array UInt8) : Except ReadError FileHeader :=
  let classCode := byteAt bytes Identification.classIndex
  let orderCode := byteAt bytes Identification.orderIndex
  match FileClass.ofCode? classCode with
  | none => .error (.malformed (.undecodableClass classCode))
  | some fileClass =>
    match ByteOrder.ofCode? orderCode with
    | none => .error (.malformed (.undecodableByteOrder orderCode))
    | some order =>
      match (layout fileClass).read order bytes Identification.size with
      | .error shortfall => .error (.truncated shortfall)
      | .ok value => .ok (ofFields fileClass order value)

def encode (header : FileHeader) (version : UInt8) (padding : List UInt8) : List UInt8 :=
  Identification.magic ++ [header.fileClass.code, header.order.code, version] ++ padding ++
    (layout header.fileClass).encode header.order header.field

theorem size_bits32 : size .bits32 = 52 := rfl

theorem size_bits64 : size .bits64 = 64 := rfl

end FileHeader

end ElfTables

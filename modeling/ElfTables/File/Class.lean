import ElfTables.Address
import ElfTables.Bytes.Word

namespace ElfTables

inductive FileClass where
  | bits32
  | bits64
  deriving DecidableEq, Repr

namespace FileClass

def ofCode? (code : UInt8) : Option FileClass :=
  if code = 1 then some .bits32 else if code = 2 then some .bits64 else none

def code : FileClass → UInt8
  | .bits32 => 1
  | .bits64 => 2

def wordSize : FileClass → Nat
  | .bits32 => 4
  | .bits64 => 8

def addressWidth : FileClass → AddressWidth
  | .bits32 => .bits32
  | .bits64 => .bits64

theorem ofCode?_code (fileClass : FileClass) : ofCode? fileClass.code = some fileClass := by
  cases fileClass <;> rfl

end FileClass

namespace ByteOrder

def ofCode? (code : UInt8) : Option ByteOrder :=
  if code = 1 then some .little else if code = 2 then some .big else none

def code : ByteOrder → UInt8
  | .little => 1
  | .big => 2

theorem ofCode?_code (order : ByteOrder) : ofCode? order.code = some order := by
  cases order <;> rfl

end ByteOrder

end ElfTables

import ElfTables.Text.Hex

namespace ElfTables

inductive AddressWidth where
  | bits32
  | bits64
  | unknown
  deriving DecidableEq, Repr

namespace AddressWidth

def name : AddressWidth → String
  | .bits32 => "32"
  | .bits64 => "64"
  | .unknown => "unknown"

def digits : AddressWidth → Nat
  | .bits32 => 8
  | .bits64 | .unknown => 16

def format (width : AddressWidth) (address : UInt64) : String :=
  Hex.literal width.digits address.toNat

end AddressWidth

def formatOffset (offset : UInt64) : String := Hex.literal 16 offset.toNat

end ElfTables

import ElfTables.Text.Quoted

namespace ElfTables.AddressArgument

inductive Fault where
  | empty
  | invalidDigit
  | tooLarge
  deriving DecidableEq, Repr

def Fault.message : Fault → String
  | .empty => "cannot parse integer from empty string"
  | .invalidDigit => "invalid digit found in string"
  | .tooLarge => "number too large to fit in target type"

def digitValue? (radix : Nat) (c : Char) : Option Nat :=
  let value? :=
    if '0' ≤ c ∧ c ≤ '9' then some (c.toNat - '0'.toNat)
    else if 'a' ≤ c ∧ c ≤ 'f' then some (c.toNat - 'a'.toNat + 10)
    else if 'A' ≤ c ∧ c ≤ 'F' then some (c.toNat - 'A'.toNat + 10)
    else none
  value?.filter fun value => value < radix

/-- Reads digits from the left; the first that is wrong or makes the value too large decides. -/
def digitsFrom (radix : Nat) (value : Nat) : List Char → Except Fault Nat
  | [] => .ok value
  | c :: rest =>
    match digitValue? radix c with
    | none => .error .invalidDigit
    | some digit =>
      if UInt64.size ≤ value * radix + digit then .error .tooLarge
      else digitsFrom radix (value * radix + digit) rest

def number (radix : Nat) : List Char → Except Fault Nat
  | [] => .error .empty
  | ['+'] => .error .invalidDigit
  | '+' :: digits => digitsFrom radix 0 digits
  | digits => digitsFrom radix 0 digits

def split : List Char → Nat × List Char
  | '0' :: 'x' :: rest => (16, rest)
  | '0' :: 'X' :: rest => (16, rest)
  | text => (10, text)

def read (text : List Char) : Except Fault UInt64 :=
  let (radix, rest) := split text
  (number radix rest).map Nat.toUInt64

def parseWith (hides : Char → Bool) (argument : String) : Except String UInt64 :=
  match read argument.toList with
  | .ok address => .ok address
  | .error fault => .error s!"invalid address {Quoted.encode hides argument}: {fault.message}"

def parse (argument : String) : Except String UInt64 := parseWith Quoted.isHidden argument

end ElfTables.AddressArgument

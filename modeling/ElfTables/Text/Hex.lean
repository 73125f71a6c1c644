namespace ElfTables.Hex

def digits (width value : Nat) : List Char := (Nat.toDigits 16 value).leftpad width '0'

def literal (width value : Nat) : String := String.ofList ('0' :: 'x' :: digits width value)

def bare (value : Nat) : String := String.ofList (Nat.toDigits 16 value)

def dump (bytes : List UInt8) : String :=
  " ".intercalate (bytes.map fun byte => String.ofList (digits 2 byte.toNat))

theorem length_digits (width value : Nat) :
    (digits width value).length = max width (Nat.toDigits 16 value).length := by
  simp only [digits, List.leftpad, List.length_append, List.length_replicate]
  omega

end ElfTables.Hex

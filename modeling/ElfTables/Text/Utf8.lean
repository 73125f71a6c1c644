/-!
UTF-8 decoding that never fails. Bytes that are no part of a character are replaced: each longest
run that could have started a character, or else a single byte, becomes one U+FFFD.
-/
namespace ElfTables.Utf8

def replacement : Char := '\uFFFD'

/-- What a first byte announces: the bytes that follow, the range of the first of them, and the
bits of the character it holds itself. -/
structure Lead where
  following : Nat
  low : UInt8
  high : UInt8
  bits : Nat
  deriving DecidableEq, Repr

def lead? (byte : UInt8) : Option Lead :=
  if byte ≤ 0x7f then some ⟨0, 0x80, 0xbf, byte.toNat⟩
  else if byte < 0xc2 then none
  else if byte ≤ 0xdf then some ⟨1, 0x80, 0xbf, byte.toNat - 0xc0⟩
  else if byte = 0xe0 then some ⟨2, 0xa0, 0xbf, 0⟩
  else if byte = 0xed then some ⟨2, 0x80, 0x9f, 0xd⟩
  else if byte ≤ 0xef then some ⟨2, 0x80, 0xbf, byte.toNat - 0xe0⟩
  else if byte = 0xf0 then some ⟨3, 0x90, 0xbf, 0⟩
  else if byte ≤ 0xf3 then some ⟨3, 0x80, 0xbf, byte.toNat - 0xf0⟩
  else if byte = 0xf4 then some ⟨3, 0x80, 0x8f, 4⟩
  else none

/-- Extends `bits` by the announced bytes as far as they are there: the value if none is missing,
and how many were taken. -/
def follow : Nat → UInt8 → UInt8 → Nat → List UInt8 → Option Nat × Nat
  | 0, _, _, bits, _ => (some bits, 0)
  | _ + 1, _, _, _, [] => (none, 0)
  | missing + 1, low, high, bits, byte :: rest =>
    if low ≤ byte && byte ≤ high then
      let (value, taken) := follow missing 0x80 0xbf (bits * 64 + (byte.toNat - 0x80)) rest
      (value, taken + 1)
    else
      (none, 0)

def first (byte : UInt8) (rest : List UInt8) : Char × Nat :=
  match lead? byte with
  | none => (replacement, 0)
  | some lead =>
    match follow lead.following lead.low lead.high lead.bits rest with
    | (some value, taken) => (Char.ofNat value, taken)
    | (none, taken) => (replacement, taken)

def decodeChars : List UInt8 → List Char
  | [] => []
  | byte :: rest => (first byte rest).1 :: decodeChars (rest.drop (first byte rest).2)
termination_by bytes => bytes.length

def decode (bytes : List UInt8) : String := String.ofList (decodeChars bytes)

end ElfTables.Utf8

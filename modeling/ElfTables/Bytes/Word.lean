namespace ElfTables

inductive ByteOrder where
  | little
  | big
  deriving DecidableEq, Repr

namespace ByteOrder

def decodeLittle : List UInt8 → Nat
  | [] => 0
  | byte :: rest => byte.toNat + 256 * decodeLittle rest

/-- Exactly `width` bytes, the least significant first; what does not fit is dropped. -/
def encodeLittle : Nat → Nat → List UInt8
  | 0, _ => []
  | width + 1, value => UInt8.ofNat value :: encodeLittle width (value / 256)

def decode (order : ByteOrder) (bytes : List UInt8) : Nat :=
  match order with
  | .little => decodeLittle bytes
  | .big => decodeLittle bytes.reverse

def encode (order : ByteOrder) (width value : Nat) : List UInt8 :=
  match order with
  | .little => encodeLittle width value
  | .big => (encodeLittle width value).reverse

theorem length_encodeLittle (width value : Nat) : (encodeLittle width value).length = width := by
  induction width generalizing value with
  | zero => rfl
  | succ width ih => simp [encodeLittle, ih]

@[simp] theorem length_encode (order : ByteOrder) (width value : Nat) :
    (order.encode width value).length = width := by
  cases order <;> simp [encode, length_encodeLittle]

end ByteOrder

end ElfTables

import ElfTables.Bytes.Word
import Mathlib

namespace ElfTables.ByteOrder

theorem decodeLittle_lt (bytes : List UInt8) : decodeLittle bytes < 256 ^ bytes.length := by
  induction bytes with
  | nil => simp [decodeLittle]
  | cons byte rest ih =>
    have bound := byte.toNat_lt
    simp only [decodeLittle, List.length_cons, Nat.pow_succ]
    omega

theorem decode_lt (order : ByteOrder) (bytes : List UInt8) :
    order.decode bytes < 256 ^ bytes.length := by
  cases order with
  | little => exact decodeLittle_lt bytes
  | big => simpa [decode] using decodeLittle_lt bytes.reverse

theorem decodeLittle_encodeLittle (width value : Nat) :
    decodeLittle (encodeLittle width value) = value % 256 ^ width := by
  induction width generalizing value with
  | zero => simp [encodeLittle, decodeLittle, Nat.mod_one]
  | succ width ih =>
    have byte : (UInt8.ofNat value).toNat = value % 256 := by simp
    rw [encodeLittle, decodeLittle, ih, byte, Nat.pow_succ, Nat.mul_comm (256 ^ width) 256,
      Nat.mod_mul]

theorem decode_encode (order : ByteOrder) (width value : Nat) :
    order.decode (order.encode width value) = value % 256 ^ width := by
  cases order <;> simp [decode, encode, decodeLittle_encodeLittle]

theorem decode_encode_of_lt (order : ByteOrder) {width value : Nat} (fits : value < 256 ^ width) :
    order.decode (order.encode width value) = value := by
  rw [decode_encode, Nat.mod_eq_of_lt fits]

end ElfTables.ByteOrder

import ElfTables.Text.Utf8
import Mathlib

namespace ElfTables.Utf8

def encode (text : String) : List UInt8 := text.toUTF8.data.toList

theorem encode_eq_flatMap (text : String) :
    encode text = text.toList.flatMap String.utf8EncodeChar := by
  rw [encode, String.toUTF8_eq_toByteArray, ← String.utf8Encode_toList, List.utf8Encode]
  simp

theorem lead_of_two : ∀ bits < 32, 2 ≤ bits →
    lead? (UInt8.ofNat (bits + 0xc0)) = some ⟨1, 0x80, 0xbf, bits⟩ := by
  decide

/-- Two of these leads narrow the next byte: the first shuts out longer forms of earlier
characters, the other the surrogates. -/
theorem lead_of_three : ∀ bits < 16, lead? (UInt8.ofNat (bits + 0xe0)) =
    some ⟨2, if bits = 0 then 0xa0 else 0x80, if bits = 13 then 0x9f else 0xbf, bits⟩ := by
  decide

theorem lead_of_four : ∀ bits < 5, lead? (UInt8.ofNat (bits + 0xf0)) =
    some ⟨3, if bits = 0 then 0x90 else 0x80, if bits = 4 then 0x8f else 0xbf, bits⟩ := by
  decide

theorem lead_of_one : ∀ bits < 128,
    lead? (UInt8.ofNat bits) = some ⟨0, 0x80, 0xbf, bits⟩ := by
  decide +kernel

theorem follow_cons {low high : UInt8} {missing bits six : Nat} (rest : List UInt8)
    (small : six < 64) (lower : low.toNat ≤ six + 0x80) (upper : six + 0x80 ≤ high.toNat) :
    follow (missing + 1) low high bits (UInt8.ofNat (six + 0x80) :: rest) =
      ((follow missing 0x80 0xbf (bits * 64 + six) rest).1,
        (follow missing 0x80 0xbf (bits * 64 + six) rest).2 + 1) := by
  have value : (UInt8.ofNat (six + 0x80)).toNat = six + 0x80 :=
    UInt8.toNat_ofNat_of_lt' (by change six + 0x80 < 256; omega)
  have admitted : (decide (low ≤ UInt8.ofNat (six + 0x80)) &&
      decide (UInt8.ofNat (six + 0x80) ≤ high)) = true := by
    simp only [Bool.and_eq_true, decide_eq_true_eq, UInt8.le_iff_toNat_le, value]
    exact ⟨lower, upper⟩
  simp only [follow, admitted, if_true, value, Nat.add_sub_cancel]

theorem follow_plain {missing bits six : Nat} (rest : List UInt8) (small : six < 64) :
    follow (missing + 1) 0x80 0xbf bits (UInt8.ofNat (six + 0x80) :: rest) =
      ((follow missing 0x80 0xbf (bits * 64 + six) rest).1,
        (follow missing 0x80 0xbf (bits * 64 + six) rest).2 + 1) := by
  apply follow_cons rest small
  · change 128 ≤ six + 128
    omega
  · change six + 128 ≤ 191
    omega

theorem follow_zero (low high : UInt8) (bits : Nat) (rest : List UInt8) :
    follow 0 low high bits rest = (some bits, 0) := by
  rw [follow]

theorem first_of_two {bits six : Nat} (rest : List UInt8) (lower : 2 ≤ bits) (upper : bits < 32)
    (small : six < 64) :
    first (UInt8.ofNat (bits + 0xc0)) (UInt8.ofNat (six + 0x80) :: rest) =
      (Char.ofNat (bits * 64 + six), 1) := by
  simp only [first, lead_of_two bits upper lower, follow_plain rest small, follow_zero]

theorem first_of_three {bits six last : Nat} (rest : List UInt8) (upper : bits < 16)
    (small : six < 64) (last_small : last < 64) (long : bits = 0 → 32 ≤ six)
    (scalar : bits = 13 → six < 32) :
    first (UInt8.ofNat (bits + 0xe0))
        (UInt8.ofNat (six + 0x80) :: UInt8.ofNat (last + 0x80) :: rest) =
      (Char.ofNat ((bits * 64 + six) * 64 + last), 2) := by
  have low : (if bits = 0 then (0xa0 : UInt8) else 0x80).toNat ≤ six + 0x80 := by
    split
    next zero => exact Nat.add_le_add_right (long zero) 128
    next => exact Nat.le_add_left 128 six
  have high : six + 0x80 ≤ (if bits = 13 then (0x9f : UInt8) else 0xbf).toNat := by
    split
    next surrogate => exact Nat.add_le_add_right (Nat.le_of_lt_succ (scalar surrogate)) 128
    next => exact Nat.add_le_add_right (Nat.le_of_lt_succ small) 128
  simp only [first, lead_of_three bits upper, follow_cons _ small low high,
    follow_plain rest last_small, follow_zero]

theorem first_of_four {bits six next last : Nat} (rest : List UInt8) (upper : bits < 5)
    (small : six < 64) (next_small : next < 64) (last_small : last < 64)
    (long : bits = 0 → 16 ≤ six) (scalar : bits = 4 → six < 16) :
    first (UInt8.ofNat (bits + 0xf0)) (UInt8.ofNat (six + 0x80) ::
        UInt8.ofNat (next + 0x80) :: UInt8.ofNat (last + 0x80) :: rest) =
      (Char.ofNat (((bits * 64 + six) * 64 + next) * 64 + last), 3) := by
  have low : (if bits = 0 then (0x90 : UInt8) else 0x80).toNat ≤ six + 0x80 := by
    split
    next zero => exact Nat.add_le_add_right (long zero) 128
    next => exact Nat.le_add_left 128 six
  have high : six + 0x80 ≤ (if bits = 4 then (0x8f : UInt8) else 0xbf).toNat := by
    split
    next outside => exact Nat.add_le_add_right (Nat.le_of_lt_succ (scalar outside)) 128
    next => exact Nat.add_le_add_right (Nat.le_of_lt_succ small) 128
  simp only [first, lead_of_four bits upper, follow_cons _ small low high,
    follow_plain _ next_small, follow_plain rest last_small, follow_zero]

theorem first_encodeChar (char : Char) (rest : List UInt8) :
    ∃ byte more, String.utf8EncodeChar char = byte :: more ∧
      first byte (more ++ rest) = (char, more.length) := by
  have scalar : char.val.toNat < 0xd800 ∨ 0xdfff < char.val.toNat ∧ char.val.toNat < 0x110000 :=
    char.valid
  have same : ∀ value, value = char.val.toNat → Char.ofNat value = char := by
    intro value equal
    rw [equal]
    exact Char.ofNat_toNat char
  by_cases one : char.val.toNat ≤ 0x7f
  · refine ⟨UInt8.ofNat char.val.toNat, [], if_pos one, ?_⟩
    simp only [first, lead_of_one _ (Nat.lt_succ_of_le one), follow_zero, same _ rfl,
      List.length_nil]
  · by_cases two : char.val.toNat ≤ 0x7ff
    · refine ⟨_, _, (if_neg one).trans (if_pos two), ?_⟩
      apply (first_of_two rest (by omega) (by omega) (by omega)).trans
      rw [same _ (by omega)]
      rfl
    · by_cases three : char.val.toNat ≤ 0xffff
      · refine ⟨_, _, (if_neg one).trans ((if_neg two).trans (if_pos three)), ?_⟩
        apply (first_of_three rest (by omega) (by omega) (by omega) (by omega) (by omega)).trans
        rw [same _ (by omega)]
        rfl
      · refine ⟨_, _, (if_neg one).trans ((if_neg two).trans (if_neg three)), ?_⟩
        apply (first_of_four rest (by omega) (by omega) (by omega) (by omega) (by omega)
          (by omega)).trans
        rw [same _ (by omega)]
        rfl

theorem decodeChars_encodeChar (char : Char) (rest : List UInt8) :
    decodeChars (String.utf8EncodeChar char ++ rest) = char :: decodeChars rest := by
  obtain ⟨byte, more, shape, found⟩ := first_encodeChar char rest
  rw [shape, List.cons_append, decodeChars, found, List.drop_left]

theorem decodeChars_flatMap (chars : List Char) :
    decodeChars (chars.flatMap String.utf8EncodeChar) = chars := by
  induction chars with
  | nil => rw [List.flatMap_nil, decodeChars]
  | cons char chars ih => rw [List.flatMap_cons, decodeChars_encodeChar, ih]

theorem decode_encode (text : String) : decode (encode text) = text := by
  rw [decode, encode_eq_flatMap, decodeChars_flatMap, String.ofList_toList]

theorem zero_ne_ofNat {value : Nat} (positive : 0 < value) (small : value < 256) :
    (0 : UInt8) ≠ UInt8.ofNat value := by
  intro same
  have values := congrArg UInt8.toNat same
  rw [UInt8.toNat_ofNat_of_lt' small] at values
  exact absurd values (Nat.ne_of_lt positive)

theorem zero_not_mem_encodeChar {char : Char} (nonzero : char ≠ '\x00') :
    0 ∉ String.utf8EncodeChar char := by
  have positive : 0 < char.val.toNat := by
    apply Nat.pos_of_ne_zero
    intro zero
    exact nonzero (Char.ext (UInt32.toNat_inj.mp zero))
  fun_cases String.utf8EncodeChar char <;>
    simp only [List.mem_cons, List.not_mem_nil, or_false, not_or]
  · exact zero_ne_ofNat positive (by omega)
  · constructor <;> exact zero_ne_ofNat (by omega) (by omega)
  · refine ⟨?_, ?_, ?_⟩ <;> exact zero_ne_ofNat (by omega) (by omega)
  · refine ⟨?_, ?_, ?_, ?_⟩ <;> exact zero_ne_ofNat (by omega) (by omega)

theorem zero_not_mem_encode {text : String} (free : '\x00' ∉ text.toList) :
    0 ∉ encode text := by
  rw [encode_eq_flatMap, List.mem_flatMap]
  intro zero
  obtain ⟨char, member, inside⟩ := zero
  apply zero_not_mem_encodeChar _ inside
  intro same
  rw [same] at member
  exact free member

end ElfTables.Utf8

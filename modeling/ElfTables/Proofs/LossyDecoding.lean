import ElfTables.Proofs.NameDecoding

namespace ElfTables.Utf8

/-- The four kinds of bytes that a character can begin with. -/
inductive Leads : UInt8 → Lead → Prop
  | one {bits : Nat} (upper : bits < 128) : Leads (UInt8.ofNat bits) ⟨0, 0x80, 0xbf, bits⟩
  | two {bits : Nat} (lower : 2 ≤ bits) (upper : bits < 32) :
      Leads (UInt8.ofNat (bits + 0xc0)) ⟨1, 0x80, 0xbf, bits⟩
  | three {bits : Nat} (upper : bits < 16) :
      Leads (UInt8.ofNat (bits + 0xe0))
        ⟨2, if bits = 0 then 0xa0 else 0x80, if bits = 13 then 0x9f else 0xbf, bits⟩
  | four {bits : Nat} (upper : bits < 5) :
      Leads (UInt8.ofNat (bits + 0xf0))
        ⟨3, if bits = 0 then 0x90 else 0x80, if bits = 4 then 0x8f else 0xbf, bits⟩

theorem lead_of_trailing : ∀ value < 256, 128 ≤ value ∧ value < 0xc2 ∨ 0xf5 ≤ value →
    lead? (UInt8.ofNat value) = none := by
  decide +kernel

theorem leads_of_lead {byte : UInt8} {lead : Lead} (found : lead? byte = some lead) :
    Leads byte lead := by
  obtain ⟨value, bound, rfl⟩ : ∃ value < 256, byte = UInt8.ofNat value :=
    ⟨byte.toNat, byte.toNat_lt, UInt8.ofNat_toNat.symm⟩
  by_cases one : value < 128
  · rw [lead_of_one value one, Option.some.injEq] at found
    subst found
    exact .one one
  · by_cases trailing : 128 ≤ value ∧ value < 0xc2 ∨ 0xf5 ≤ value
    · rw [lead_of_trailing value bound trailing] at found
      cases found
    · by_cases two : value < 0xe0
      · obtain ⟨bits, rfl⟩ : ∃ bits, value = bits + 0xc0 := ⟨value - 0xc0, by omega⟩
        rw [lead_of_two bits (by omega) (by omega), Option.some.injEq] at found
        subst found
        exact .two (by omega) (by omega)
      · by_cases three : value < 0xf0
        · obtain ⟨bits, rfl⟩ : ∃ bits, value = bits + 0xe0 := ⟨value - 0xe0, by omega⟩
          rw [lead_of_three bits (by omega), Option.some.injEq] at found
          subst found
          exact .three (by omega)
        · obtain ⟨bits, rfl⟩ : ∃ bits, value = bits + 0xf0 := ⟨value - 0xf0, by omega⟩
          rw [lead_of_four bits (by omega), Option.some.injEq] at found
          subst found
          exact .four (by omega)

theorem exists_six_of_follow {missing bits value taken : Nat} {low high : UInt8}
    {rest : List UInt8} (floor : 0x80 ≤ low.toNat) (ceiling : high.toNat ≤ 0xbf)
    (found : follow (missing + 1) low high bits rest = (some value, taken)) :
    ∃ six more used, six < 64 ∧ low.toNat ≤ six + 0x80 ∧ six + 0x80 ≤ high.toNat ∧
      rest = UInt8.ofNat (six + 0x80) :: more ∧ taken = used + 1 ∧
      follow missing 0x80 0xbf (bits * 64 + six) more = (some value, used) := by
  cases rest with
  | nil => simp [follow] at found
  | cons byte more =>
      rw [follow] at found
      split at found
      next admitted =>
        simp only [Bool.and_eq_true, decide_eq_true_eq, UInt8.le_iff_toNat_le] at admitted
        simp only [Prod.mk.injEq] at found
        refine ⟨byte.toNat - 0x80, more, _, by omega, by omega, by omega, ?_, found.2.symm, ?_⟩
        · have whole : byte.toNat - 0x80 + 0x80 = byte.toNat := by omega
          rw [whole, UInt8.ofNat_toNat]
        · exact Prod.ext found.1 rfl
      next => simp at found

theorem exists_six_of_plain {missing bits value taken : Nat} {rest : List UInt8}
    (found : follow (missing + 1) 0x80 0xbf bits rest = (some value, taken)) :
    ∃ six more used, six < 64 ∧ rest = UInt8.ofNat (six + 0x80) :: more ∧ taken = used + 1 ∧
      follow missing 0x80 0xbf (bits * 64 + six) more = (some value, used) := by
  obtain ⟨six, more, used, small, _, _, shape, counted, ended⟩ :=
    exists_six_of_follow (by decide) (by decide) found
  exact ⟨six, more, used, small, shape, counted, ended⟩

theorem eq_of_follow_zero {low high : UInt8} {bits value taken : Nat} {rest : List UInt8}
    (found : follow 0 low high bits rest = (some value, taken)) : value = bits ∧ taken = 0 := by
  rw [follow_zero, Prod.mk.injEq, Option.some.injEq] at found
  exact ⟨found.1.symm, found.2.symm⟩

theorem toNat_val_ofNat {value : Nat} (valid : value.isValidChar) :
    (Char.ofNat value).val.toNat = value :=
  (Char.toNat_ofNat value).trans (if_pos valid)

theorem encodeChar_of_one {bits : Nat} (upper : bits < 128) :
    String.utf8EncodeChar (Char.ofNat bits) = [UInt8.ofNat bits] := by
  have value : (Char.ofNat bits).val.toNat = bits := toNat_val_ofNat (Or.inl (by omega))
  simp only [String.utf8EncodeChar, value]
  rw [if_pos (by omega)]

theorem encodeChar_of_two {bits six : Nat} (lower : 2 ≤ bits) (upper : bits < 32)
    (small : six < 64) :
    String.utf8EncodeChar (Char.ofNat (bits * 64 + six)) =
      [UInt8.ofNat (bits + 0xc0), UInt8.ofNat (six + 0x80)] := by
  have value : (Char.ofNat (bits * 64 + six)).val.toNat = bits * 64 + six :=
    toNat_val_ofNat (Or.inl (by omega))
  have high : (bits * 64 + six) / 64 % 32 = bits := by omega
  have low : (bits * 64 + six) % 64 = six := by omega
  simp only [String.utf8EncodeChar, value]
  rw [if_neg (by omega), if_pos (by omega), high, low]

theorem encodeChar_of_three {bits six last : Nat} (upper : bits < 16) (small : six < 64)
    (last_small : last < 64) (long : bits = 0 → 32 ≤ six) (scalar : bits = 13 → six < 32) :
    String.utf8EncodeChar (Char.ofNat ((bits * 64 + six) * 64 + last)) =
      [UInt8.ofNat (bits + 0xe0), UInt8.ofNat (six + 0x80), UInt8.ofNat (last + 0x80)] := by
  have valid : ((bits * 64 + six) * 64 + last).isValidChar := by
    unfold Nat.isValidChar
    omega
  have high : ((bits * 64 + six) * 64 + last) / 4096 % 16 = bits := by omega
  have middle : ((bits * 64 + six) * 64 + last) / 64 % 64 = six := by omega
  have low : ((bits * 64 + six) * 64 + last) % 64 = last := by omega
  simp only [String.utf8EncodeChar, toNat_val_ofNat valid]
  rw [if_neg (by omega), if_neg (by omega), if_pos (by omega), high, middle, low]

theorem encodeChar_of_four {bits six next last : Nat} (upper : bits < 5) (small : six < 64)
    (next_small : next < 64) (last_small : last < 64) (long : bits = 0 → 16 ≤ six)
    (scalar : bits = 4 → six < 16) :
    String.utf8EncodeChar (Char.ofNat (((bits * 64 + six) * 64 + next) * 64 + last)) =
      [UInt8.ofNat (bits + 0xf0), UInt8.ofNat (six + 0x80), UInt8.ofNat (next + 0x80),
        UInt8.ofNat (last + 0x80)] := by
  have valid : (((bits * 64 + six) * 64 + next) * 64 + last).isValidChar := by
    unfold Nat.isValidChar
    omega
  have high : (((bits * 64 + six) * 64 + next) * 64 + last) / 262144 % 8 = bits := by omega
  have upper_middle : (((bits * 64 + six) * 64 + next) * 64 + last) / 4096 % 64 = six := by omega
  have lower_middle : (((bits * 64 + six) * 64 + next) * 64 + last) / 64 % 64 = next := by omega
  have low : (((bits * 64 + six) * 64 + next) * 64 + last) % 64 = last := by omega
  simp only [String.utf8EncodeChar, toNat_val_ofNat valid]
  rw [if_neg (by omega), if_neg (by omega), if_neg (by omega), high, upper_middle, lower_middle,
    low]

theorem encodeChar_of_leads {byte : UInt8} {lead : Lead} {rest : List UInt8} {value taken : Nat}
    (leads : Leads byte lead)
    (extent : follow lead.following lead.low lead.high lead.bits rest = (some value, taken)) :
    byte :: rest.take taken = String.utf8EncodeChar (Char.ofNat value) := by
  cases leads with
  | one upper =>
      rcases eq_of_follow_zero extent with ⟨rfl, rfl⟩
      exact (encodeChar_of_one upper).symm
  | two lower upper =>
      rcases exists_six_of_plain extent with ⟨six, _, _, small, rfl, rfl, ended⟩
      rcases eq_of_follow_zero ended with ⟨rfl, rfl⟩
      exact (encodeChar_of_two lower upper small).symm
  | three upper =>
      dsimp only at extent
      rcases exists_six_of_follow (by split <;> decide) (by split <;> decide) extent with
        ⟨six, _, _, small, lower, higher, rfl, rfl, behind⟩
      rcases exists_six_of_plain behind with ⟨last, _, _, last_small, rfl, rfl, ended⟩
      rcases eq_of_follow_zero ended with ⟨rfl, rfl⟩
      refine (encodeChar_of_three upper small last_small ?_ ?_).symm
      · rintro rfl
        have floor : 160 ≤ six + 128 := lower
        omega
      · rintro rfl
        have ceiling : six + 128 ≤ 159 := higher
        omega
  | four upper =>
      dsimp only at extent
      rcases exists_six_of_follow (by split <;> decide) (by split <;> decide) extent with
        ⟨six, _, _, small, lower, higher, rfl, rfl, behind⟩
      rcases exists_six_of_plain behind with ⟨next, _, _, next_small, rfl, rfl, later⟩
      rcases exists_six_of_plain later with ⟨last, _, _, last_small, rfl, rfl, ended⟩
      rcases eq_of_follow_zero ended with ⟨rfl, rfl⟩
      refine (encodeChar_of_four upper small next_small last_small ?_ ?_).symm
      · rintro rfl
        have floor : 144 ≤ six + 128 := lower
        omega
      · rintro rfl
        have ceiling : six + 128 ≤ 143 := higher
        omega

theorem encodeChar_of_first {byte : UInt8} {rest : List UInt8} {char : Char} {taken : Nat}
    (found : first byte rest = (char, taken)) (kept : char ≠ replacement) :
    byte :: rest.take taken = String.utf8EncodeChar char := by
  cases led : lead? byte with
  | none =>
      simp only [first, led, Prod.mk.injEq] at found
      exact absurd found.1.symm kept
  | some lead =>
      rcases extent : follow lead.following lead.low lead.high lead.bits rest with ⟨_ | value, used⟩
      · simp only [first, led, extent, Prod.mk.injEq] at found
        exact absurd found.1.symm kept
      · simp only [first, led, extent, Prod.mk.injEq] at found
        rcases found with ⟨rfl, rfl⟩
        exact encodeChar_of_leads (leads_of_lead led) extent

theorem eq_flatMap_of_decodeChars {bytes : List UInt8} {chars : List Char}
    (found : decodeChars bytes = chars) (kept : replacement ∉ chars) :
    bytes = chars.flatMap String.utf8EncodeChar := by
  induction chars generalizing bytes with
  | nil =>
      cases bytes with
      | nil => rfl
      | cons byte rest =>
          rw [decodeChars] at found
          cases found
  | cons char chars ih =>
      cases bytes with
      | nil =>
          rw [decodeChars] at found
          cases found
      | cons byte rest =>
          rw [decodeChars, List.cons.injEq] at found
          rw [List.mem_cons, not_or] at kept
          have here : first byte rest = (char, (first byte rest).2) := Prod.ext found.1 rfl
          have behind := ih found.2 kept.2
          rw [List.flatMap_cons, ← encodeChar_of_first here (Ne.symm kept.1), ← behind,
            List.cons_append, List.take_append_drop]

/-- Nothing but its own encoding is read as a text without the replacement character. -/
theorem decode_eq_iff {bytes : List UInt8} {text : String} (plain : replacement ∉ text.toList) :
    decode bytes = text ↔ bytes = encode text := by
  constructor
  · rintro rfl
    rw [decode, String.toList_ofList] at plain
    rw [decode, encode_eq_flatMap, String.toList_ofList]
    exact eq_flatMap_of_decodeChars rfl plain
  · rintro rfl
    exact decode_encode text

end ElfTables.Utf8

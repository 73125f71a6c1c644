import ElfTables.Address
import ElfTables.Proofs.AddressGrammar
import ElfTables.Proofs.HexDigits

namespace ElfTables

namespace AddressArgument

variable {radix value : Nat}

def Spells (radix : Nat) : Prop :=
  ∀ digit < radix, digitValue? radix digit.digitChar = some digit

theorem spells_of_le (bounded : radix ≤ 16) : Spells radix :=
  fun _ small => digitValue?_of_isDigit bounded ⟨small, Or.inl rfl⟩

theorem digitsFrom_append (start : Nat) (front rest : List Char) :
    digitsFrom radix start (front ++ rest) =
      digitsFrom radix start front >>= fun value => digitsFrom radix value rest := by
  induction front generalizing start with
  | nil => rfl
  | cons c front ih =>
      rw [List.cons_append, digitsFrom, digitsFrom]
      cases digitValue? radix c with
      | none => rfl
      | some digit =>
          by_cases far : UInt64.size ≤ start * radix + digit
          · simp only [far, if_true]
            rfl
          · simp only [far, if_false]
            exact ih (start * radix + digit)

theorem digitsFrom_singleton (spells : Spells radix) {start digit : Nat} (small : digit < radix)
    (fits : start * radix + digit < UInt64.size) :
    digitsFrom radix start [digit.digitChar] = .ok (start * radix + digit) := by
  simp only [digitsFrom, spells digit small, Nat.not_le.mpr fits, if_false]

theorem digitsFrom_toDigits (spells : Spells radix) (several : 1 < radix)
    (fits : value < UInt64.size) :
    digitsFrom radix 0 (Nat.toDigits radix value) = .ok value := by
  -- The induction takes off the last digit.
  induction value using Nat.strong_induction_on with
  | _ value ih =>
      by_cases single : value < radix
      · rw [Nat.toDigits_of_lt_base single]
        have read : digitsFrom radix 0 [value.digitChar] = .ok (0 * radix + value) :=
          digitsFrom_singleton spells single (by omega)
        rwa [Nat.zero_mul, Nat.zero_add] at read
      · have fewer : value / radix < value := Nat.div_lt_self (by omega) several
        have whole : value / radix * radix + value % radix = value := Nat.div_add_mod' value radix
        have front := ih (value / radix) fewer (Nat.lt_trans fewer fits)
        have last := Nat.mod_lt value (Nat.zero_lt_of_lt several)
        rw [Nat.toDigits_of_base_le several (Nat.le_of_not_lt single), digitsFrom_append, front]
        exact (digitsFrom_singleton spells last (whole.symm ▸ fits)).trans (congrArg _ whole)

theorem digitsFrom_zeros (spells : Spells radix) (positive : 0 < radix) (count : Nat)
    (rest : List Char) :
    digitsFrom radix 0 (List.replicate count '0' ++ rest) = digitsFrom radix 0 rest := by
  induction count with
  | zero => rfl
  | succ count ih =>
      have zero : digitValue? radix '0' = some 0 := spells 0 positive
      have small : ¬UInt64.size ≤ 0 * radix + 0 := by simp [UInt64.size]
      rw [List.replicate_succ, List.cons_append, digitsFrom]
      simp only [zero, small, if_false]
      rw [Nat.zero_mul]
      exact ih

theorem digitsFrom_digits (width : Nat) (fits : value < UInt64.size) :
    digitsFrom 16 0 (Hex.digits width value) = .ok value := by
  have spells : Spells 16 := spells_of_le (Nat.le_refl 16)
  rw [Hex.digits, List.leftpad, digitsFrom_zeros spells (by decide)]
  exact digitsFrom_toDigits spells (by decide) fits

end AddressArgument

theorem Hex.eq_of_literal {width wide value other : Nat} (fits : value < UInt64.size)
    (also : other < UInt64.size) (same : literal width value = literal wide other) :
    value = other := by
  rw [literal, literal, String.ofList_inj, List.cons.injEq, List.cons.injEq] at same
  have digits := same.2.2
  have first := AddressArgument.digitsFrom_digits width fits
  have second := AddressArgument.digitsFrom_digits wide also
  rw [digits, second] at first
  exact (Except.ok.inj first).symm

theorem Hex.literal_inj {width wide : Nat} {left right : UInt64}
    (same : literal width left.toNat = literal wide right.toNat) : left = right :=
  UInt64.toNat_inj.mp (eq_of_literal left.toNat_lt right.toNat_lt same)

theorem formatOffset_inj {left right : UInt64} (same : formatOffset left = formatOffset right) :
    left = right :=
  Hex.literal_inj same

theorem length_formatOffset (offset : UInt64) : (formatOffset offset).toList.length = 18 := by
  rw [formatOffset, Hex.literal, String.toList_ofList, List.length_cons, List.length_cons,
    Hex.length_digits_of_lt (by decide) offset.toNat_lt]

theorem formatOffset_append_inj {left right : UInt64} {u v : List Char}
    (same : (formatOffset left).toList ++ u = (formatOffset right).toList ++ v) :
    left = right ∧ u = v := by
  have lengths := (length_formatOffset left).trans (length_formatOffset right).symm
  rcases List.append_inj same lengths with ⟨offsets, rest⟩
  exact ⟨formatOffset_inj (String.toList_inj.mp offsets), rest⟩

end ElfTables

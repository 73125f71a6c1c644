namespace ElfTables

def firstZero? (bytes : Array UInt8) (start : Nat) : Nat → Option Nat
  | 0 => none
  | length + 1 =>
    match bytes[start]? with
    | none => none
    | some byte => if byte = 0 then some start else firstZero? bytes (start + 1) length

/-- The bytes from `start` up to the first zero byte, which has to be one of the `length` bytes
from there. -/
def terminated? (bytes : Array UInt8) (start length : Nat) : Option (List UInt8) :=
  (firstZero? bytes start length).map fun finish => (bytes.extract start finish).toList

theorem firstZero?_eq_some_iff {bytes : Array UInt8} {start length finish : Nat} :
    firstZero? bytes start length = some finish ↔
      start ≤ finish ∧ finish < start + length ∧ bytes[finish]? = some 0 ∧
        ∀ position, start ≤ position → position < finish →
          ∃ byte, bytes[position]? = some byte ∧ byte ≠ 0 := by
  induction length generalizing start with
  | zero =>
    simp only [firstZero?, reduceCtorEq, false_iff]
    rintro ⟨lower, upper, _⟩
    omega
  | succ length ih =>
    cases present : bytes[start]? with
    | none =>
      simp only [firstZero?, present, reduceCtorEq, false_iff]
      rintro ⟨lower, upper, isZero, earlier⟩
      by_cases same : finish = start
      · subst same
        simp [present] at isZero
      · obtain ⟨byte, there, _⟩ := earlier start (Nat.le_refl _) (by omega)
        simp [present] at there
    | some byte =>
      by_cases nonzero : byte = 0
      · subst nonzero
        simp only [firstZero?, present, if_true, Option.some.injEq]
        constructor
        · rintro rfl
          exact ⟨Nat.le_refl _, by omega, present, by intro position lower upper; omega⟩
        · rintro ⟨lower, upper, isZero, earlier⟩
          by_cases same : start = finish
          · exact same
          · obtain ⟨other, there, positive⟩ := earlier start (Nat.le_refl _) (by omega)
            simp only [present, Option.some.injEq] at there
            exact absurd there.symm positive
      · simp only [firstZero?, present, nonzero, if_false, ih]
        constructor
        · rintro ⟨lower, upper, isZero, earlier⟩
          refine ⟨by omega, by omega, isZero, ?_⟩
          intro position le lt
          by_cases same : position = start
          · subst same
            exact ⟨byte, present, nonzero⟩
          · exact earlier position (by omega) lt
        · rintro ⟨lower, upper, isZero, earlier⟩
          have later : start ≠ finish := by
            rintro rfl
            simp only [present, Option.some.injEq] at isZero
            exact nonzero isZero
          exact ⟨by omega, by omega, isZero, fun position le lt => earlier position (by omega) lt⟩

end ElfTables

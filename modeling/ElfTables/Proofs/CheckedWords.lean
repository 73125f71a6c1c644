import Mathlib

namespace ElfTables

def checkedSum (left right : UInt64) : Option UInt64 :=
  if left + right < left then none else some (left + right)

def cappedSum (left right : UInt64) : UInt64 :=
  if left + right < left then 0xffffffffffffffff else left + right

def cappedDifference (left right : UInt64) : UInt64 :=
  if left < right then 0 else left - right

/-- The product of two words, refused where dividing it does not give the first one back. -/
def checkedProduct (left right : UInt64) : Option UInt64 :=
  if right = 0 ∨ left * right / right = left then some (left * right) else none

theorem add_lt_left_iff (left right : UInt64) :
    left + right < left ↔ 2 ^ 64 ≤ left.toNat + right.toNat := by
  have first := left.toNat_lt
  have second := right.toNat_lt
  rw [UInt64.lt_iff_toNat_lt, UInt64.toNat_add]
  omega

theorem checkedSum_eq_some_iff {left right sum : UInt64} :
    checkedSum left right = some sum ↔ sum.toNat = left.toNat + right.toNat := by
  have bound := sum.toNat_lt
  rw [checkedSum]
  split
  next wraps =>
    rw [add_lt_left_iff] at wraps
    simp only [reduceCtorEq, false_iff]
    omega
  next fits =>
    rw [add_lt_left_iff, Nat.not_le] at fits
    rw [Option.some.injEq, ← UInt64.toNat_inj, UInt64.toNat_add, Nat.mod_eq_of_lt fits]
    exact eq_comm

theorem toNat_cappedSum (left right : UInt64) :
    (cappedSum left right).toNat = min (left.toNat + right.toNat) (2 ^ 64 - 1) := by
  rw [cappedSum]
  split
  next wraps =>
    rw [add_lt_left_iff] at wraps
    change 2 ^ 64 - 1 = _
    omega
  next fits =>
    rw [add_lt_left_iff, Nat.not_le] at fits
    rw [UInt64.toNat_add, Nat.mod_eq_of_lt fits]
    omega

theorem toNat_cappedDifference (left right : UInt64) :
    (cappedDifference left right).toNat = left.toNat - right.toNat := by
  rw [cappedDifference]
  split
  next below =>
    rw [UInt64.lt_iff_toNat_lt] at below
    exact (Nat.sub_eq_zero_of_le (Nat.le_of_lt below)).symm
  next reaches =>
    rw [UInt64.lt_iff_toNat_lt, Nat.not_lt] at reaches
    exact UInt64.toNat_sub_of_le left right (UInt64.le_iff_toNat_le.mpr reaches)

theorem mul_div_eq_iff {left right : UInt64} (positive : right ≠ 0) :
    left * right / right = left ↔ left.toNat * right.toNat < 2 ^ 64 := by
  have nonzero : 0 < right.toNat := by
    rw [Nat.pos_iff_ne_zero]
    exact fun zero => positive (UInt64.toNat_inj.mp zero)
  rw [← UInt64.toNat_inj, UInt64.toNat_div, UInt64.toNat_mul]
  constructor
  · intro same
    by_contra wraps
    have smaller : left.toNat * right.toNat % 2 ^ 64 < left.toNat * right.toNat :=
      Nat.lt_of_lt_of_le (Nat.mod_lt _ (by decide)) (Nat.le_of_not_lt wraps)
    have quotient := (Nat.div_lt_iff_lt_mul nonzero).mpr smaller
    exact absurd same (Nat.ne_of_lt quotient)
  · intro fits
    rw [Nat.mod_eq_of_lt fits, Nat.mul_div_cancel _ nonzero]

theorem checkedProduct_eq_some_iff {left right product : UInt64} :
    checkedProduct left right = some product ↔
      product.toNat = left.toNat * right.toNat := by
  have bound := product.toNat_lt
  rw [checkedProduct]
  by_cases zero : right = 0
  · subst zero
    rw [if_pos (Or.inl rfl), Option.some.injEq, ← UInt64.toNat_inj, UInt64.mul_zero,
      UInt64.toNat_zero, Nat.mul_zero]
    exact eq_comm
  · simp only [zero, false_or, mul_div_eq_iff zero]
    split
    next fits =>
      rw [Option.some.injEq, ← UInt64.toNat_inj, UInt64.toNat_mul, Nat.mod_eq_of_lt fits]
      exact eq_comm
    next wraps =>
      simp only [reduceCtorEq, false_iff]
      omega

end ElfTables

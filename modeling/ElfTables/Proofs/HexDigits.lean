import ElfTables.Text.Hex
import Mathlib

namespace ElfTables.Hex

theorem length_digits_of_lt {width value : Nat} (positive : 0 < width)
    (fits : value < 16 ^ width) : (digits width value).length = width := by
  have short := (Nat.length_toDigits_le_iff (by decide) positive).2 fits
  rw [length_digits, Nat.max_eq_left short]

theorem length_digits_of_le {width value : Nat} (positive : 0 < width)
    (far : 16 ^ width ≤ value) :
    (digits width value).length = (Nat.toDigits 16 value).length := by
  have long : width ≤ (Nat.toDigits 16 value).length := by
    by_contra few
    have fits := (Nat.length_toDigits_le_iff (by decide) positive).mp (Nat.le_of_not_le few)
    exact Nat.not_lt.mpr far fits
  rw [length_digits, Nat.max_eq_right long]

end ElfTables.Hex

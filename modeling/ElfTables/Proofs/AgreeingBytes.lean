import ElfTables.File.EntryTable
import ElfTables.File.Header
import Mathlib

namespace ElfTables

/-- The same bytes stand in both from `start` on and in front of `stop`, as far as there are any. -/
def AgreeOn (bytes other : Array UInt8) (start stop : Nat) : Prop :=
  ∀ index < stop, start ≤ index → bytes[index]? = other[index]?

instance (bytes other : Array UInt8) (start stop : Nat) :
    Decidable (AgreeOn bytes other start stop) :=
  inferInstanceAs (Decidable (∀ index < stop, start ≤ index → bytes[index]? = other[index]?))

/-- A stretch of this length that does not end inside the bytes may differ. -/
def AgreeOnWhole (bytes other : Array UInt8) (start length : Nat) : Prop :=
  start + length ≤ bytes.size → AgreeOn bytes other start (start + length)

instance (bytes other : Array UInt8) (start length : Nat) :
    Decidable (AgreeOnWhole bytes other start length) :=
  inferInstanceAs (Decidable (_ → _))

variable {bytes other : Array UInt8} {start stop : Nat}

namespace AgreeOn

theorem mono (agree : AgreeOn bytes other start stop) {first last : Nat} (lower : start ≤ first)
    (upper : last ≤ stop) : AgreeOn bytes other first last := by
  intro index before after
  exact agree index (Nat.lt_of_lt_of_le before upper) (Nat.le_trans lower after)

theorem extract_eq (agree : AgreeOn bytes other start stop) (same : bytes.size = other.size) :
    bytes.extract start stop = other.extract start stop := by
  apply Array.ext_getElem?
  intro index
  rw [Array.getElem?_extract, Array.getElem?_extract, same]
  split
  next inside => exact agree (start + index) (by omega) (Nat.le_add_right _ _)
  next => rfl

theorem byteAt_eq (agree : AgreeOn bytes other start stop) {index : Nat} (lower : start ≤ index)
    (upper : index < stop) : byteAt bytes index = byteAt other index := by
  rw [byteAt, byteAt, Array.getD_eq_getD_getElem?, Array.getD_eq_getD_getElem?,
    agree index upper lower]

end AgreeOn

variable {Field : Type} [DecidableEq Field] {order : ByteOrder} {layout : Layout Field}

namespace Layout

theorem read_congr (same : bytes.size = other.size) {position : Nat}
    (agree : AgreeOn bytes other position (position + layout.size)) :
    layout.read order bytes position = layout.read order other position := by
  induction layout generalizing position with
  | nil => rfl
  | cons slot rest ih =>
      rcases slot with ⟨field, width⟩
      rw [size, ← Nat.add_assoc] at agree
      have behind := ih (agree.mono (Nat.le_add_right _ _) le_rfl)
      have word := (agree.mono le_rfl (Nat.le_add_right _ _)).extract_eq same
      rw [read, read, same, behind, word]

theorem read_error_congr (same : bytes.size = other.size) {position : Nat} {shortfall : Shortfall}
    (failed : layout.read order bytes position = .error shortfall) :
    layout.read order other position = .error shortfall := by
  induction layout generalizing position with
  | nil => cases failed
  | cons slot rest ih =>
      rcases slot with ⟨field, width⟩
      rw [read] at failed ⊢
      rw [← same]
      by_cases fits : position + width ≤ bytes.size
      · rw [if_pos fits] at failed ⊢
        cases behind : read order bytes rest (position + width) with
        | ok values =>
            rw [behind] at failed
            cases failed
        | error found =>
            rw [behind] at failed
            cases failed
            rw [ih behind]
      · rw [if_neg fits] at failed ⊢
        exact failed

end Layout

theorem EntryTable.read_congr (table : EntryTable) {index : Nat} (same : bytes.size = other.size)
    (agree : AgreeOnWhole bytes other (table.position index) layout.size) :
    table.read layout order bytes index = table.read layout order other index := by
  have reads (inside : table.position index ≤ bytes.size) :
      layout.read order bytes (table.position index) =
        layout.read order other (table.position index) := by
    cases record : layout.read order bytes (table.position index) with
    | ok values =>
        have whole := (Layout.isOk_read_iff order bytes layout inside).mp ⟨values, record⟩
        rw [← record, Layout.read_congr same (agree whole)]
    | error shortfall => exact (Layout.read_error_congr same record).symm
  rw [read, read, ← same]
  by_cases past : bytes.size < table.position index
  · simp only [past, if_true]
  · simp only [reads (Nat.le_of_not_lt past)]

end ElfTables

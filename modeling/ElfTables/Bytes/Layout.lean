import ElfTables.Bytes.Word

/-!
Records of fixed-width fields. A layout lists the fields in the order they are stored; the same
list drives reading and writing. `Layout.isOk_read_iff` says when a record can be read.
-/
namespace ElfTables

/-- The fields of a record in stored order, each with its width in bytes. -/
abbrev Layout (Field : Type) := List (Field × Nat)

structure Shortfall where
  width : Nat
  remaining : Nat
  deriving DecidableEq, Repr

namespace Layout

variable {Field : Type}

def size : Layout Field → Nat
  | [] => 0
  | (_, width) :: rest => width + size rest

/-- Reads the fields one after another; the first that is not wholly inside `bytes` ends it. -/
def read [DecidableEq Field] (order : ByteOrder) (bytes : Array UInt8) :
    Layout Field → Nat → Except Shortfall (Field → Nat)
  | [], _ => .ok fun _ => 0
  | (field, width) :: rest, position =>
    if position + width ≤ bytes.size then
      match read order bytes rest (position + width) with
      | .ok values =>
        let word := order.decode (bytes.extract position (position + width)).toList
        .ok fun other => if other = field then word else values other
      | .error shortfall => .error shortfall
    else
      .error ⟨width, bytes.size - position⟩

def encode (order : ByteOrder) (layout : Layout Field) (values : Field → Nat) : List UInt8 :=
  layout.flatMap fun (field, width) => order.encode width (values field)

@[simp] theorem length_encode (order : ByteOrder) (layout : Layout Field) (values : Field → Nat) :
    (encode order layout values).length = size layout := by
  induction layout with
  | nil => rfl
  | cons slot rest ih => simpa [encode, size] using ih

variable [DecidableEq Field]

theorem isOk_read_iff (order : ByteOrder) (bytes : Array UInt8) (layout : Layout Field)
    {position : Nat} (inside : position ≤ bytes.size) :
    (∃ values, read order bytes layout position = .ok values) ↔
      position + size layout ≤ bytes.size := by
  induction layout generalizing position with
  | nil => simpa [read, size] using inside
  | cons slot rest ih =>
    obtain ⟨field, width⟩ := slot
    by_cases fits : position + width ≤ bytes.size
    · have step := ih fits
      simp only [read, size, fits, if_true]
      rw [← Nat.add_assoc, ← step]
      cases read order bytes rest (position + width) <;> simp
    · simp only [read, size, fits, if_false]
      constructor
      · rintro ⟨values, h⟩
        cases h
      · intro h
        omega

end Layout

end ElfTables

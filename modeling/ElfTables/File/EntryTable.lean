import ElfTables.ReadError

/-!
Tables of equally spaced records. Positions are natural numbers, so an entry that would lie
beyond the 64-bit address space is an error and never another entry.
-/
namespace ElfTables

structure EntryTable where
  base : UInt64
  stride : UInt16
  deriving DecidableEq, Repr

namespace EntryTable

variable {Field : Type} [DecidableEq Field]

def position (table : EntryTable) (index : Nat) : Nat :=
  table.base.toNat + index * table.stride.toNat

/-- Reads the record at `index`. Only its layout is read, whatever the stride. -/
def read (table : EntryTable) (layout : Layout Field) (order : ByteOrder) (bytes : Array UInt8)
    (index : Nat) : Except ReadError (Field → Nat) :=
  if UInt64.size ≤ table.position index then
    .error (.malformed (.outsideAddressSpace index))
  else if bytes.size < table.position index then
    .error (.badOffset (table.position index))
  else
    match layout.read order bytes (table.position index) with
    | .ok values => .ok values
    | .error shortfall => .error (.truncated shortfall)

theorem isOk_read_iff (table : EntryTable) (layout : Layout Field) (order : ByteOrder)
    (bytes : Array UInt8) (index : Nat) :
    (∃ values, table.read layout order bytes index = .ok values) ↔
      table.position index < UInt64.size ∧
        table.position index + layout.size ≤ bytes.size := by
  unfold read
  by_cases far : UInt64.size ≤ table.position index
  · simp [far, Nat.not_lt.2 far]
  · by_cases past : bytes.size < table.position index
    · simp only [far, if_false, past, if_true, reduceCtorEq, exists_false, false_iff]
      omega
    · have inside := Layout.isOk_read_iff order bytes layout (Nat.le_of_not_lt past)
      simp only [far, if_false, past, Nat.lt_of_not_le far, true_and]
      rw [← inside]
      cases layout.read order bytes (table.position index) <;> simp

end EntryTable

end ElfTables

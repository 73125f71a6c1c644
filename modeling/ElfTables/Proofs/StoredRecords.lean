import ElfTables.File.EntryTable
import ElfTables.Proofs.StoredIntegers

/-!
Records at a position of the bytes. A stored record reads back (`Layout.read_of_storedAt`), and
what can be read is read alike with more bytes behind it (`Layout.read_append`).
-/
namespace ElfTables

def StoredAt (bytes : Array UInt8) (position : Nat) (piece : List UInt8) : Prop :=
  position ≤ bytes.size ∧ piece <+: bytes.toList.drop position

instance (bytes : Array UInt8) (position : Nat) (piece : List UInt8) :
    Decidable (StoredAt bytes position piece) :=
  inferInstanceAs (Decidable (_ ∧ _))

namespace StoredAt

variable {bytes : Array UInt8} {position : Nat} {piece first second : List UInt8}

theorem end_le (stored : StoredAt bytes position piece) :
    position + piece.length ≤ bytes.size := by
  have short := stored.2.length_le
  have inside := stored.1
  simp only [List.length_drop, Array.length_toList] at short
  omega

theorem left (stored : StoredAt bytes position (first ++ second)) :
    StoredAt bytes position first :=
  ⟨stored.1, List.IsPrefix.trans (List.prefix_append first second) stored.2⟩

theorem right (stored : StoredAt bytes position (first ++ second)) :
    StoredAt bytes (position + first.length) second := by
  have inside := stored.end_le
  rw [List.length_append] at inside
  refine ⟨by omega, ?_⟩
  have behind := stored.2.drop first.length
  rwa [List.drop_left, List.drop_drop] at behind

theorem extract (stored : StoredAt bytes position piece) :
    (bytes.extract position (position + piece.length)).toList = piece := by
  rw [Array.toList_extract, List.extract_eq_take_drop, Nat.add_sub_cancel_left]
  exact (List.prefix_iff_eq_take.mp stored.2).symm

theorem within {offset : Nat} (stored : StoredAt bytes position piece)
    (inside : offset ≤ piece.length) (held : first <+: piece.drop offset) :
    StoredAt bytes (position + offset) first := by
  have room := stored.end_le
  refine ⟨by omega, ?_⟩
  have behind := stored.2.drop offset
  rw [List.drop_drop] at behind
  exact held.trans behind

theorem getElem?_eq (stored : StoredAt bytes position piece) {index : Nat}
    (inside : index < piece.length) : bytes[position + index]? = some piece[index] := by
  have present := stored.2.getElem inside
  rw [List.getElem_drop] at present
  have bound : position + index < bytes.size := by
    have room := stored.end_le
    omega
  rw [Array.getElem?_eq_getElem bound, present]
  rfl

end StoredAt

theorem extract_append_of_le {bytes : Array UInt8} (tail : Array UInt8) (start : Nat)
    {stop : Nat} (inside : stop ≤ bytes.size) :
    (bytes ++ tail).extract start stop = bytes.extract start stop := by
  have none_behind : stop - bytes.size = 0 := by omega
  rw [Array.extract_append, none_behind, Array.extract_zero, Array.append_empty]

namespace Layout

variable {Field : Type}

def Fits (layout : Layout Field) (values : Field → Nat) : Prop :=
  ∀ slot ∈ layout, values slot.1 < 256 ^ slot.2

/-- Every field has a place. -/
def Complete (layout : Layout Field) : Prop := ∀ field, field ∈ layout.map Prod.fst

variable [DecidableEq Field]

theorem read_agrees_of_storedAt (order : ByteOrder) {bytes : Array UInt8} {layout : Layout Field}
    {position : Nat} {values : Field → Nat}
    (stored : StoredAt bytes position (layout.encode order values)) (fits : layout.Fits values) :
    ∃ found, layout.read order bytes position = .ok found ∧
      ∀ slot ∈ layout, found slot.1 = values slot.1 := by
  induction layout generalizing position with
  | nil =>
      refine ⟨_, rfl, ?_⟩
      intro slot member
      cases member
  | cons slot rest ih =>
      obtain ⟨field, width⟩ := slot
      have parts : StoredAt bytes position
          (order.encode width (values field) ++ encode order rest values) := stored
      have here := parts.left.extract
      have inside := parts.left.end_le
      have behind := parts.right
      rw [ByteOrder.length_encode] at here inside behind
      obtain ⟨found, succeeds, agrees⟩ :=
        ih behind (fun other member => fits other (List.mem_cons_of_mem _ member))
      have word : order.decode (bytes.extract position (position + width)).toList =
          values field := by
        rw [here]
        exact order.decode_encode_of_lt (fits (field, width) List.mem_cons_self)
      refine ⟨_, by rw [read, if_pos inside, succeeds], ?_⟩
      intro other member
      by_cases same : other.1 = field
      · simp only [same, if_true, word]
      · simp only [same, if_false]
        rcases List.mem_cons.mp member with rfl | member
        · exact absurd rfl same
        · exact agrees other member

theorem read_of_storedAt (order : ByteOrder) {bytes : Array UInt8} {layout : Layout Field}
    (complete : layout.Complete) {position : Nat} {values : Field → Nat}
    (stored : StoredAt bytes position (layout.encode order values)) (fits : layout.Fits values) :
    layout.read order bytes position = .ok values := by
  obtain ⟨found, succeeds, agrees⟩ := read_agrees_of_storedAt order stored fits
  have same : found = values := by
    funext field
    obtain ⟨slot, member, rfl⟩ := List.mem_map.mp (complete field)
    exact agrees slot member
  rw [succeeds, same]

theorem read_append (order : ByteOrder) {bytes : Array UInt8} (tail : Array UInt8)
    {layout : Layout Field} {position : Nat} {values : Field → Nat}
    (succeeds : layout.read order bytes position = .ok values) :
    layout.read order (bytes ++ tail) position = .ok values := by
  induction layout generalizing position values with
  | nil => exact succeeds
  | cons slot rest ih =>
      obtain ⟨field, width⟩ := slot
      by_cases inside : position + width ≤ bytes.size
      · have longer : position + width ≤ (bytes ++ tail).size := by
          rw [Array.size_append]
          omega
        rw [read, if_pos inside] at succeeds
        rw [read, if_pos longer, extract_append_of_le tail position inside]
        cases later : read order bytes rest (position + width) with
        | ok others =>
            rw [ih later]
            rwa [later] at succeeds
        | error shortfall =>
            rw [later] at succeeds
            cases succeeds
      · rw [read, if_neg inside] at succeeds
        cases succeeds

end Layout

namespace EntryTable

variable {Field : Type} [DecidableEq Field] {layout : Layout Field} {bytes : Array UInt8}
  {index : Nat} {values : Field → Nat}

theorem read_eq_ok_iff {table : EntryTable} {order : ByteOrder} :
    table.read layout order bytes index = .ok values ↔
      table.position index < UInt64.size ∧ table.position index ≤ bytes.size ∧
        layout.read order bytes (table.position index) = .ok values := by
  rw [read]
  split
  next far => simp [Nat.not_lt.mpr far]
  next near =>
    split
    next past => simp [Nat.not_le.mpr past]
    next inside =>
      simp only [Nat.lt_of_not_le near, Nat.le_of_not_lt inside, true_and]
      cases layout.read order bytes (table.position index) <;> simp

theorem read_of_storedAt (table : EntryTable) (order : ByteOrder) (complete : layout.Complete)
    (addressable : bytes.size ≤ UInt64.size) (nonempty : 0 < layout.size)
    (stored : StoredAt bytes (table.position index) (layout.encode order values))
    (fits : layout.Fits values) : table.read layout order bytes index = .ok values := by
  have inside := stored.end_le
  rw [Layout.length_encode] at inside
  rw [read_eq_ok_iff]
  exact ⟨by omega, by omega, Layout.read_of_storedAt order complete stored fits⟩

theorem read_append (table : EntryTable) (layout : Layout Field) (order : ByteOrder)
    (tail : Array UInt8) (succeeds : table.read layout order bytes index = .ok values) :
    table.read layout order (bytes ++ tail) index = .ok values := by
  rw [read_eq_ok_iff] at succeeds ⊢
  obtain ⟨near, started, record⟩ := succeeds
  refine ⟨near, ?_, Layout.read_append order tail record⟩
  rw [Array.size_append]
  omega

end EntryTable

end ElfTables

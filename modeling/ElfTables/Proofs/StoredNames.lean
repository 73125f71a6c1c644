import ElfTables.Proofs.NameDecoding
import ElfTables.Proofs.StoredHeaders

namespace ElfTables

variable {bytes : Array UInt8} {position : Nat}

theorem terminated?_of_storedAt {name : List UInt8} {length : Nat}
    (stored : StoredAt bytes position (name ++ [0])) (free : 0 ∉ name)
    (inside : name.length < length) : terminated? bytes position length = some name := by
  have ending : firstZero? bytes position length = some (position + name.length) := by
    rw [firstZero?_eq_some_iff]
    refine ⟨Nat.le_add_right _ _, Nat.add_lt_add_left inside _, ?_, ?_⟩
    · have zero := stored.right.getElem?_eq (Nat.zero_lt_one)
      exact zero
    · intro index lower upper
      obtain ⟨step, rfl⟩ := Nat.exists_eq_add_of_le lower
      have earlier : step < name.length := Nat.lt_of_add_lt_add_left upper
      refine ⟨name[step], stored.left.getElem?_eq earlier, ?_⟩
      intro zero
      apply free
      rw [← zero]
      exact List.getElem_mem earlier
  rw [terminated?, ending, Option.map_some, stored.left.extract]

/-- The name stands in the contents of a string table, its zero byte behind it. -/
def HoldsName (contents : List UInt8) (offset : Nat) (name : String) : Prop :=
  Utf8.encode name ++ [0] <+: contents.drop offset

instance (contents : List UInt8) (offset : Nat) (name : String) :
    Decidable (HoldsName contents offset name) :=
  inferInstanceAs (Decidable (Utf8.encode name ++ [0] <+: contents.drop offset))

theorem Image.stringAt_of_stored {image : Image} {table : Nat} {names : SectionHeader}
    (found : image.sectionHeader table = .ok names)
    (typed : names.type = SectionHeader.stringTable) {contents : List UInt8}
    (sized : names.size.toNat = contents.length)
    (stored : StoredAt image.bytes names.offset.toNat contents) {name : String} {offset : Nat}
    (free : '\x00' ∉ name.toList) (held : HoldsName contents offset name) :
    image.stringAt table offset = .ok name := by
  have room := held.length_le
  rw [List.length_drop, List.length_append, List.length_singleton] at room
  have run := terminated?_of_storedAt (stored.within (by omega) held)
    (Utf8.zero_not_mem_encode free) (by omega : _ < names.size.toNat - offset)
  simp only [stringAt, found, bind, Except.bind, typed, if_true, nameBytes?, run,
    Utf8.decode_encode]

end ElfTables

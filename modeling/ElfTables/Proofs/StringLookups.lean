import ElfTables.Image
import ElfTables.Proofs.CheckedWords
import ElfTables.Proofs.StandardForm
import ElfTables.Proofs.TableEntries

/-!
Names in string tables. The zero bytes behind the start of a name, inside its section and inside
the bytes, decide what a lookup gives (`Image.stringAt_decided`). Arithmetic on 64-bit words finds
the same name (`Image.nameInWords?_eq`).
-/
namespace ElfTables

def zerosWithin (bytes : Array UInt8) (start stop : Nat) : Set Nat :=
  {position | position ∈ Set.Ico start stop ∧ bytes[position]? = some 0}

section Zeros

variable {bytes : Array UInt8} {start stop other length : Nat}

theorem lt_size_of_mem_zerosWithin {position : Nat}
    (zero : position ∈ zerosWithin bytes start stop) : position < bytes.size :=
  (Array.getElem?_eq_some_iff.mp zero.2).1

theorem zerosWithin_congr (same : ∀ position < bytes.size,
    position ∈ Set.Ico start stop ↔ position ∈ Set.Ico start other) :
    zerosWithin bytes start stop = zerosWithin bytes start other := by
  ext position
  constructor
  · intro zero
    exact ⟨(same position (lt_size_of_mem_zerosWithin zero)).mp zero.1, zero.2⟩
  · intro zero
    exact ⟨(same position (lt_size_of_mem_zerosWithin zero)).mpr zero.1, zero.2⟩

theorem firstZero?_eq_some_iff_isLeast :
    firstZero? bytes start length = some stop ↔
      IsLeast (zerosWithin bytes start (start + length)) stop := by
  rw [firstZero?_eq_some_iff]
  constructor
  · intro found
    rcases found with ⟨lower, upper, zero, earlier⟩
    refine ⟨⟨⟨lower, upper⟩, zero⟩, ?_⟩
    intro position member
    by_contra before
    obtain ⟨byte, present, nonzero⟩ := earlier position member.1.1 (Nat.lt_of_not_le before)
    rw [member.2, Option.some.injEq] at present
    exact nonzero present.symm
  · intro isLeast
    rcases isLeast with ⟨⟨⟨lower, upper⟩, zero⟩, least⟩
    refine ⟨lower, upper, zero, ?_⟩
    intro position after before
    have inside : position < bytes.size :=
      Nat.lt_trans before (Array.getElem?_eq_some_iff.mp zero).1
    refine ⟨bytes[position], Array.getElem?_eq_getElem inside, ?_⟩
    intro isZero
    have member : position ∈ zerosWithin bytes start (start + length) :=
      ⟨⟨after, Nat.lt_trans before upper⟩, by rw [Array.getElem?_eq_getElem inside, isZero]⟩
    exact absurd (least member) (Nat.not_le.mpr before)

theorem terminated?_eq_some_iff {run : List UInt8} :
    terminated? bytes start length = some run ↔
      ∃ stop, IsLeast (zerosWithin bytes start (start + length)) stop ∧
        (bytes.extract start stop).toList = run := by
  simp only [terminated?, Option.map_eq_some_iff, firstZero?_eq_some_iff_isLeast]

theorem terminated?_congr {shorter : Nat}
    (same : zerosWithin bytes start (start + length) = zerosWithin bytes start (start + shorter)) :
    terminated? bytes start length = terminated? bytes start shorter := by
  ext run
  simp only [terminated?_eq_some_iff, same]

theorem terminated?_eq_none_iff :
    terminated? bytes start length = none ↔ zerosWithin bytes start (start + length) = ∅ := by
  rw [Option.eq_none_iff_forall_ne_some, Set.eq_empty_iff_forall_notMem]
  constructor
  · intro unended position zero
    exact unended _ (terminated?_eq_some_iff.mpr ⟨_, isLeast_csInf ⟨position, zero⟩, rfl⟩)
  · intro free run found
    obtain ⟨stop, least, _⟩ := terminated?_eq_some_iff.mp found
    exact free stop least.1

end Zeros

/-- Where a name at `offset` in the section may end: at the zero bytes behind its start, inside
the section and inside the bytes. -/
def SectionHeader.nameEnds (table : SectionHeader) (bytes : Array UInt8) (offset : Nat) : Set Nat :=
  zerosWithin bytes (table.offset.toNat + offset)
    (min (table.offset.toNat + table.size.toNat) bytes.size)

namespace Image

variable {image : Image} {table : SectionHeader}

/-- The bytes of a name found with 64-bit words: a start that wraps around or lies behind the
section is refused, and the end of the section is cut to the largest word and to the bytes. -/
def nameInWords? (image : Image) (table : SectionHeader) (offset : UInt64) :
    Option (List UInt8) :=
  match (checkedSum table.offset offset).filter fun _ => offset < table.size with
  | none => none
  | some start =>
    let stop := min (cappedSum table.offset table.size).toNat image.bytes.size
    if start.toNat ≤ stop then terminated? image.bytes start.toNat (stop - start.toNat) else none

theorem zerosWithin_name (table : SectionHeader) (bytes : Array UInt8) (offset : Nat) :
    zerosWithin bytes (table.offset.toNat + offset)
        (table.offset.toNat + offset + (table.size.toNat - offset)) =
      table.nameEnds bytes offset := by
  apply zerosWithin_congr
  intro position inside
  simp only [Set.mem_Ico]
  omega

theorem nameBytes?_eq_some_iff {offset : Nat} {name : List UInt8} :
    image.nameBytes? table offset = some name ↔
      ∃ stop, IsLeast (table.nameEnds image.bytes offset) stop ∧
        (image.bytes.extract (table.offset.toNat + offset) stop).toList = name := by
  rw [nameBytes?, terminated?_eq_some_iff, zerosWithin_name]

theorem nameBytes?_eq_none_iff {offset : Nat} :
    image.nameBytes? table offset = none ↔ table.nameEnds image.bytes offset = ∅ := by
  rw [nameBytes?, terminated?_eq_none_iff, zerosWithin_name]

theorem nameEnds_eq_empty {bytes : Array UInt8} {offset : Nat}
    (outside : ∀ position < bytes.size, table.offset.toNat + offset ≤ position →
      table.offset.toNat + table.size.toNat ≤ position) : table.nameEnds bytes offset = ∅ := by
  rw [Set.eq_empty_iff_forall_notMem]
  intro position zero
  rcases zero with ⟨⟨lower, upper⟩, _⟩
  rw [lt_min_iff] at upper
  exact absurd (outside position upper.2 lower) (Nat.not_le.mpr upper.1)

theorem nameInWords?_eq (addressable : image.bytes.size < 2 ^ 64) (table : SectionHeader)
    (offset : UInt64) :
    image.nameInWords? table offset = image.nameBytes? table offset.toNat := by
  have absent : ∀ _ : table.nameEnds image.bytes offset.toNat = ∅,
      image.nameBytes? table offset.toNat = none := nameBytes?_eq_none_iff.mpr
  rw [nameInWords?]
  by_cases inside : offset < table.size
  · cases sum : checkedSum table.offset offset with
    | none =>
        have wraps : table.offset + offset < table.offset := by
          by_contra fits
          rw [checkedSum, if_neg fits] at sum
          cases sum
        rw [add_lt_left_iff] at wraps
        rw [absent (nameEnds_eq_empty (by omega)), Option.filter_none]
    | some start =>
        have begins := checkedSum_eq_some_iff.mp sum
        have ends := toNat_cappedSum table.offset table.size
        rw [UInt64.lt_iff_toNat_lt] at inside
        simp only [Option.filter_some, UInt64.lt_iff_toNat_lt, inside, decide_true, if_true]
        split
        next room =>
          rw [nameBytes?, ← begins]
          apply terminated?_congr
          apply zerosWithin_congr
          intro position within
          simp only [Set.mem_Ico]
          omega
        next short =>
          rw [absent (nameEnds_eq_empty (by omega))]
  · rw [UInt64.lt_iff_toNat_lt, Nat.not_lt] at inside
    have refused : (checkedSum table.offset offset).filter (fun _ => offset < table.size) =
        none := by
      simp [Option.filter_eq_none_iff, UInt64.le_iff_toNat_le, inside]
    rw [refused, absent (nameEnds_eq_empty (by omega))]

variable {index offset : Nat}

theorem stringAt_of_untyped (found : image.sectionHeader index = .ok table)
    (untyped : table.type ≠ SectionHeader.stringTable) (offset : Nat) :
    image.stringAt index offset = .error (.malformed (.notStringTable index)) := by
  simp only [stringAt, found, bind, Except.bind, untyped, if_false]

theorem stringAt_of_some (found : image.sectionHeader index = .ok table)
    (typed : table.type = SectionHeader.stringTable) {name : List UInt8}
    (held : image.nameBytes? table offset = some name) :
    image.stringAt index offset = .ok (Utf8.decode name) := by
  simp only [stringAt, found, bind, Except.bind, typed, if_true, held]

theorem stringAt_of_none (found : image.sectionHeader index = .ok table)
    (typed : table.type = SectionHeader.stringTable)
    (unended : image.nameBytes? table offset = none) :
    image.stringAt index offset = .error (.malformed (.noString offset index)) := by
  simp only [stringAt, found, bind, Except.bind, typed, if_true, unended]

theorem lt_size_of_nameEnds {bytes : Array UInt8}
    (ends : (table.nameEnds bytes offset).Nonempty) : offset < table.size.toNat := by
  obtain ⟨position, ⟨lower, upper⟩, _⟩ := ends
  rw [lt_min_iff] at upper
  omega

theorem exists_table_of_stringAt {text : String} (found : image.stringAt index offset = .ok text) :
    ∃ table name, image.sectionHeader index = .ok table ∧
      table.type = SectionHeader.stringTable ∧ image.nameBytes? table offset = some name ∧
      Utf8.decode name = text := by
  cases read : image.sectionHeader index with
  | error cause =>
      rw [stringAt_of_error read] at found
      cases found
  | ok table =>
      by_cases typed : table.type = SectionHeader.stringTable
      · cases held : image.nameBytes? table offset with
        | none =>
            rw [stringAt_of_none read typed held] at found
            cases found
        | some name =>
            rw [stringAt_of_some read typed held] at found
            exact ⟨table, name, rfl, typed, held, Except.ok.inj found⟩
      · rw [stringAt_of_untyped read typed] at found
        cases found

/-- What looking up a string comes to in any section and at any offset: the text in front of the
first zero byte, or else the error of the section header, that the section holds no strings, or
that no string stands there. Words of 64 bits find the same bytes. -/
theorem stringAt_decided (image : Image) (index offset : Nat) :
    let found := image.stringAt index offset
    ((∃ text, found = .ok text) ↔
      ∃ table, image.sectionHeader index = .ok table ∧ table.type = 3 ∧
        offset < table.size.toNat ∧ (table.nameEnds image.bytes offset).Nonempty) ∧
    (∀ cause, image.sectionHeader index = .error cause → found = .error cause) ∧
    (∀ table, image.sectionHeader index = .ok table →
      (table.type ≠ 3 → found = .error (.malformed (.notStringTable index))) ∧
      (table.type = 3 → table.size.toNat ≤ offset ∨ table.nameEnds image.bytes offset = ∅ →
        found = .error (.malformed (.noString offset index))) ∧
      ∀ stop, table.type = 3 → IsLeast (table.nameEnds image.bytes offset) stop →
        found = .ok
          (Utf8.decode (image.bytes.extract (table.offset.toNat + offset) stop).toList)) ∧
    ∀ table (word : UInt64), image.bytes.size < 2 ^ 64 →
      image.nameInWords? table word = image.nameBytes? table word.toNat := by
  intro found
  refine ⟨⟨?succeeds, ?ends⟩, ?unread, ?read, ?words⟩
  case succeeds =>
    intro succeeds
    rcases succeeds with ⟨text, succeeds⟩
    obtain ⟨table, name, read, typed, held, _⟩ := exists_table_of_stringAt succeeds
    obtain ⟨stop, least, _⟩ := nameBytes?_eq_some_iff.mp held
    exact ⟨table, read, typed, lt_size_of_nameEnds ⟨stop, least.1⟩, stop, least.1⟩
  case ends =>
    intro held
    rcases held with ⟨table, read, typed, _, ends⟩
    have held := nameBytes?_eq_some_iff.mpr ⟨_, isLeast_csInf ends, rfl⟩
    exact ⟨_, stringAt_of_some read typed held⟩
  case unread =>
    intro cause failed
    exact stringAt_of_error failed offset
  case read =>
    intro table read
    refine ⟨fun untyped => stringAt_of_untyped read untyped offset, ?_, ?_⟩
    · intro typed outside
      apply stringAt_of_none read typed
      rw [nameBytes?_eq_none_iff]
      rcases outside with behind | free
      · exact nameEnds_eq_empty (by omega)
      · exact free
    · intro stop typed least
      exact stringAt_of_some read typed (nameBytes?_eq_some_iff.mpr ⟨stop, least, rfl⟩)
  case words =>
    intro table word addressable
    exact nameInWords?_eq addressable table word

def farTable : SectionHeader := ⟨0, 3, 0, 0, 2 ^ 64 - 4, 2 ^ 64 - 1, 0, 0, 1, 0⟩

def endlessTable : SectionHeader := ⟨0, 3, 0, 0, 1, 2 ^ 64 - 1, 0, 0, 1, 0⟩

def hostileHeader : FileHeader := ⟨.bits64, .little, 2, 62, 1, 0, 0, 64, 0, 64, 0, 0, 64, 3, 1⟩

def hostileBytes : Array UInt8 :=
  (hostileHeader.written 1 (List.replicate 9 0) ++
    SectionHeader.written .little ⟨0, 0, 0, 0, 0, 0, 0, 0, 0, 0⟩ .bits64 ++
    farTable.written .little .bits64 ++ endlessTable.written .little .bits64).toArray

theorem stringAt_decided_hostile :
    let image := (ofBytes hostileBytes).value
    image.stringAt 1 5 = .error (.malformed (.noString 5 1)) ∧
      image.stringAt 2 0 = .ok "ELF\x02\x01\x01" := by
  intro image
  have size : image.bytes.size = 256 := by decide +kernel
  have far : image.sectionHeader 1 = .ok farTable := by decide +kernel
  have endless : image.sectionHeader 2 = .ok endlessTable := by decide +kernel
  constructor
  · apply ((stringAt_decided image 1 5).2.2.1 _ far).2.1 rfl
    apply Or.inr
    apply nameEnds_eq_empty
    intro position inside lower
    have start : farTable.offset.toNat = 2 ^ 64 - 4 := by decide +kernel
    rw [start] at lower
    omega
  · have least : IsLeast (endlessTable.nameEnds image.bytes 0) 7 := by
      refine ⟨⟨⟨by decide, by rw [size]; decide +kernel⟩, by decide +kernel⟩, ?_⟩
      intro position zero
      by_contra before
      have early : ∀ other < 7, 1 ≤ other → image.bytes[other]? ≠ some 0 := by decide +kernel
      exact early position (Nat.lt_of_not_le before) zero.1.1 zero.2
    exact (((stringAt_decided image 2 0).2.2.1 _ endless).2.2 7 rfl least).trans (by decide +kernel)

end Image

end ElfTables

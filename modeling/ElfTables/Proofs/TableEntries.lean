import ElfTables.Image
import Mathlib

namespace ElfTables

theorem exists_of_bind_eq_ok {ε α β : Type} {first : Except ε α} {next : α → Except ε β}
    {value : β} (succeeds : (first >>= next) = .ok value) :
    ∃ found, first = .ok found ∧ next found = .ok value := by
  cases first with
  | ok found => exact ⟨found, rfl, succeeds⟩
  | error error => cases succeeds

theorem exists_count_of_checked {ε α : Type} {counted : Except ε Nat} {index : Nat}
    {refusal : Nat → ε} {read : Except ε α} {entry : α}
    (succeeds : (counted >>= fun count => if count ≤ index then .error (refusal count) else read) =
      .ok entry) :
    ∃ count, counted = .ok count ∧ index < count := by
  obtain ⟨count, found, checked⟩ := exists_of_bind_eq_ok succeeds
  refine ⟨count, found, ?_⟩
  by_contra beyond
  rw [if_pos (Nat.le_of_not_lt beyond)] at checked
  cases checked

theorem map_eq_error_iff {ε α β : Type} {result : Except ε α} {make : α → β} {error : ε} :
    result.map make = .error error ↔ result = .error error := by
  cases result <;> simp [Except.map]

namespace EntryTable

variable {Field : Type} [DecidableEq Field] {layout : Layout Field} {order : ByteOrder}
  {bytes : Array UInt8} {index : Nat}

/-- Why an entry of this layout cannot be read: it starts outside the address space, or else it
does not start or does not end inside the bytes. -/
inductive Unreadable (table : EntryTable) (layout : Layout Field) (bytes : Array UInt8)
    (index : Nat) : ReadError → Prop
  | outside (far : 2 ^ 64 ≤ table.position index) :
      Unreadable table layout bytes index (.malformed (.outsideAddressSpace index))
  | startsPast (near : table.position index < 2 ^ 64) (past : bytes.size < table.position index) :
      Unreadable table layout bytes index (.badOffset (table.position index))
  | endsPast (near : table.position index < 2 ^ 64) (inside : table.position index ≤ bytes.size)
      (past : bytes.size < table.position index + layout.size) (shortfall : Shortfall) :
      Unreadable table layout bytes index (.truncated shortfall)

theorem unreadable_of_error {table : EntryTable} {cause : ReadError}
    (failed : table.read layout order bytes index = .error cause) :
    table.Unreadable layout bytes index cause := by
  rw [read] at failed
  by_cases far : UInt64.size ≤ table.position index
  · rw [if_pos far] at failed
    cases failed
    exact .outside far
  · have near : table.position index < 2 ^ 64 := Nat.lt_of_not_le far
    rw [if_neg far] at failed
    by_cases past : bytes.size < table.position index
    · rw [if_pos past] at failed
      cases failed
      exact .startsPast near past
    · have inside := Nat.le_of_not_lt past
      have complete := Layout.isOk_read_iff order bytes layout inside
      rw [if_neg past] at failed
      cases record : layout.read order bytes (table.position index) with
      | ok values =>
          rw [record] at failed
          cases failed
      | error shortfall =>
          rw [record] at failed complete
          cases failed
          refine .endsPast near inside (Nat.lt_of_not_le fun whole => ?_) shortfall
          obtain ⟨values, succeeds⟩ := complete.mpr whole
          cases succeeds

end EntryTable

namespace FileHeader

def segmentTable (header : FileHeader) : EntryTable := ⟨header.phoff, header.phentsize⟩

def sectionTable (header : FileHeader) : EntryTable := ⟨header.shoff, header.shentsize⟩

def segmentEntry (header : FileHeader) (bytes : Array UInt8) (index : Nat) :
    Except ReadError SegmentHeader :=
  (header.segmentTable.read (SegmentHeader.layout header.fileClass) header.order bytes index).map
    SegmentHeader.ofFields

def sectionEntry (header : FileHeader) (bytes : Array UInt8) (index : Nat) :
    Except ReadError SectionHeader :=
  (header.sectionTable.read (SectionHeader.layout header.fileClass) header.order bytes index).map
    SectionHeader.ofFields

end FileHeader

namespace Image

variable {image : Image} {header : FileHeader} {count index : Nat}

theorem parsedHeader_of_some (present : image.header = some header) :
    image.parsedHeader = .ok header := by
  rw [parsedHeader, present]

theorem exists_header_of_segmentCount (counted : image.segmentCount = .ok count) :
    ∃ header, image.parsedHeader = .ok header := by
  obtain ⟨header, decoded, _⟩ := exists_of_bind_eq_ok counted
  exact ⟨header, decoded⟩

theorem exists_header_of_sectionCount (counted : image.sectionCount = .ok count) :
    ∃ header, image.parsedHeader = .ok header := by
  obtain ⟨header, decoded, _⟩ := exists_of_bind_eq_ok counted
  exact ⟨header, decoded⟩

theorem exists_count_of_segmentHeader {entry : SegmentHeader}
    (read : image.segmentHeader index = .ok entry) :
    ∃ count, image.segmentCount = .ok count ∧ index < count :=
  exists_count_of_checked read

theorem exists_count_of_sectionHeader {entry : SectionHeader}
    (read : image.sectionHeader index = .ok entry) :
    ∃ count, image.sectionCount = .ok count ∧ index < count :=
  exists_count_of_checked read

theorem segmentHeader_of_lt (decoded : image.parsedHeader = .ok header)
    (counted : image.segmentCount = .ok count) (below : index < count) :
    image.segmentHeader index = header.segmentEntry image.bytes index := by
  have inside : ¬count ≤ index := Nat.not_le.mpr below
  simp only [segmentHeader, counted, decoded, bind, Except.bind, inside, if_false]
  rfl

theorem segmentHeader_of_le (counted : image.segmentCount = .ok count) (beyond : count ≤ index) :
    image.segmentHeader index = .error (.malformed (.segmentOutOfRange index count)) := by
  simp only [segmentHeader, counted, bind, Except.bind, beyond, if_true]

theorem segmentHeader_of_uncounted {cause : ReadError} (failed : image.segmentCount = .error cause)
    (index : Nat) : image.segmentHeader index = .error cause := by
  simp only [segmentHeader, failed, bind, Except.bind]

theorem unreadable_of_segmentHeader (counted : image.segmentCount = .ok count)
    (below : index < count) {cause : ReadError}
    (failed : image.segmentHeader index = .error cause) :
    ∃ header, image.parsedHeader = .ok header ∧
      header.segmentTable.Unreadable (SegmentHeader.layout header.fileClass) image.bytes index
        cause := by
  obtain ⟨header, decoded⟩ := exists_header_of_segmentCount counted
  refine ⟨header, decoded, ?_⟩
  rw [segmentHeader_of_lt decoded counted below, FileHeader.segmentEntry,
    map_eq_error_iff] at failed
  exact EntryTable.unreadable_of_error failed

theorem segmentCount_of_direct (decoded : image.parsedHeader = .ok header)
    (direct : header.phnum ≠ extended) : image.segmentCount = .ok header.phnum.toNat := by
  simp only [segmentCount, decoded, bind, Except.bind, direct, if_false, pure, Except.pure]

theorem rawSectionHeader_of_absent (decoded : image.parsedHeader = .ok header)
    (absent : header.shoff = 0) (index : Nat) :
    image.rawSectionHeader index = .error (.malformed .noSectionTable) := by
  simp only [rawSectionHeader, decoded, bind, Except.bind, absent, if_true]

theorem rawSectionHeader_of_present (decoded : image.parsedHeader = .ok header)
    (present : header.shoff ≠ 0) (index : Nat) :
    image.rawSectionHeader index = header.sectionEntry image.bytes index := by
  simp only [rawSectionHeader, decoded, bind, Except.bind, present, if_false]
  rfl

theorem shoff_ne_zero_of_sectionCount (decoded : image.parsedHeader = .ok header)
    (counted : image.sectionCount = .ok count) (some_section : 0 < count) : header.shoff ≠ 0 := by
  intro absent
  simp only [sectionCount, decoded, bind, Except.bind, absent, if_true, pure, Except.pure,
    Except.ok.injEq] at counted
  exact absurd counted (Nat.ne_of_lt some_section)

theorem sectionHeader_of_lt (decoded : image.parsedHeader = .ok header)
    (counted : image.sectionCount = .ok count) (below : index < count) :
    image.sectionHeader index = header.sectionEntry image.bytes index := by
  have inside : ¬count ≤ index := Nat.not_le.mpr below
  have present := shoff_ne_zero_of_sectionCount decoded counted (Nat.zero_lt_of_lt below)
  simp only [sectionHeader, counted, bind, Except.bind, inside, if_false]
  exact rawSectionHeader_of_present decoded present index

theorem sectionHeader_of_le (counted : image.sectionCount = .ok count) (beyond : count ≤ index) :
    image.sectionHeader index = .error (.malformed (.sectionOutOfRange index count)) := by
  simp only [sectionHeader, counted, bind, Except.bind, beyond, if_true]

theorem sectionHeader_of_uncounted {cause : ReadError} (failed : image.sectionCount = .error cause)
    (index : Nat) : image.sectionHeader index = .error cause := by
  simp only [sectionHeader, failed, bind, Except.bind]

theorem stringAt_of_error {cause : ReadError} (failed : image.sectionHeader index = .error cause)
    (offset : Nat) : image.stringAt index offset = .error cause := by
  simp only [stringAt, failed, bind, Except.bind]

end Image

end ElfTables

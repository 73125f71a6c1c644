import ElfTables.Proofs.Classification
import ElfTables.Proofs.FirstFailure
import ElfTables.Proofs.SectionScans

/-!
Counts that a file announces and does not keep. Entries that stand apart are no more than the file
has bytes, whatever count it announces; entries that all stand at one place are all alike
(`announced_counts_bounded`).
-/
namespace ElfTables

/-- The indices below a count at which there is an entry to read. -/
def readable {α : Type} (count : Nat) (read : Nat → Except ReadError α) : Set Nat :=
  {index | index < count ∧ ∃ entry, read index = .ok entry}

/-- What the distance between entries makes of a table, whatever count it is given. -/
structure BoundedByStride {α : Type} (stride length : Nat) (counted : Except ReadError Nat)
    (read : Nat → Except ReadError α) : Prop where
  apart : 1 ≤ stride → ∀ count, counted = .ok count → (readable count read).encard ≤ length
  together : stride = 0 → ∀ count, counted = .ok count → ∀ index < count, ∀ other < count,
    read index = read other

namespace EntryTable

variable {Field α : Type} [DecidableEq Field] {layout : Layout Field} {order : ByteOrder}
  {bytes : Array UInt8}

theorem lt_size_of_read {table : EntryTable} {index : Nat} {values : Field → Nat}
    (apart : 1 ≤ table.stride.toNat) (occupied : 0 < layout.size)
    (succeeds : table.read layout order bytes index = .ok values) : index < bytes.size := by
  have inside := ((table.isOk_read_iff layout order bytes index).mp ⟨values, succeeds⟩).2
  have behind : index ≤ table.position index :=
    calc
      index ≤ index * table.stride.toNat := Nat.le_mul_of_pos_right index apart
      _ ≤ table.position index := Nat.le_add_left _ _
  omega

theorem readable_subset (table : EntryTable) {make : (Field → Nat) → α} {count : Nat}
    {read : Nat → Except ReadError α} (apart : 1 ≤ table.stride.toNat)
    (occupied : 0 < layout.size)
    (below : ∀ index < count, read index = (table.read layout order bytes index).map make) :
    readable count read ⊆ Set.Iio bytes.size := by
  rintro index ⟨inside, entry, found⟩
  rw [below index inside] at found
  cases record : table.read layout order bytes index with
  | ok values => exact lt_size_of_read apart occupied record
  | error cause =>
      rw [record] at found
      cases found

theorem read_eq_of_together {table : EntryTable} (together : table.stride.toNat = 0)
    (index other : Nat) :
    table.read layout order bytes index = table.read layout order bytes other := by
  have position : ∀ index, table.position index = table.base.toNat := by
    intro index
    rw [EntryTable.position, together, Nat.mul_zero, Nat.add_zero]
  have near : ¬UInt64.size ≤ table.base.toNat := Nat.not_le.mpr table.base.toNat_lt
  simp only [read, position, near, if_false]

theorem boundedByStride (table : EntryTable) {make : (Field → Nat) → α}
    {counted : Except ReadError Nat} {read : Nat → Except ReadError α}
    (occupied : 0 < layout.size)
    (below : ∀ count, counted = .ok count → ∀ index < count,
      read index = (table.read layout order bytes index).map make) :
    BoundedByStride table.stride.toNat bytes.size counted read where
  apart := by
    intro apart count counted
    calc
      _ ≤ (Set.Iio bytes.size).encard :=
        Set.encard_le_encard (table.readable_subset apart occupied (below count counted))
      _ = bytes.size := by
        rw [← Finset.coe_range, Set.encard_coe_eq_coe_finsetCard, Finset.card_range]
  together := by
    intro together count counted index inside other also
    rw [below count counted index inside, below count counted other also,
      read_eq_of_together together index other]

end EntryTable

namespace Image

variable {image : Image} {header : FileHeader} {index : Nat}

theorem lt_size_of_sectionHeader (decoded : image.parsedHeader = .ok header)
    (apart : 1 ≤ header.shentsize.toNat) {entry : SectionHeader}
    (read : image.sectionHeader index = .ok entry) : index < image.bytes.size := by
  obtain ⟨count, counted, inside⟩ := exists_count_of_sectionHeader read
  exact header.sectionTable.readable_subset apart
    (SectionHeader.layout_size_pos _) (fun _ => sectionHeader_of_lt decoded counted)
    ⟨inside, entry, read⟩

theorem lt_size_of_segmentHeader (decoded : image.parsedHeader = .ok header)
    (apart : 1 ≤ header.phentsize.toNat) {entry : SegmentHeader}
    (read : image.segmentHeader index = .ok entry) : index < image.bytes.size := by
  obtain ⟨count, counted, inside⟩ := exists_count_of_segmentHeader read
  exact header.segmentTable.readable_subset apart
    (SegmentHeader.layout_size_pos _) (fun _ => segmentHeader_of_lt decoded counted)
    ⟨inside, entry, read⟩

end Image

theorem SectionWalk.length_toList_le {walk : SectionWalk} {length : Nat} (positive : 0 < length)
    (behind : 1 ≤ walk.index)
    (bounded : ∀ index entry, walk.source.sectionHeader index = .ok entry → index < length) :
    walk.toList.length ≤ length := by
  obtain ⟨entries, found, ending⟩ := walk.toList_spec
  have short : entries.length + 1 ≤ length := by
    cases count : entries.length with
    | zero => exact positive
    | succ last =>
        obtain ⟨header, read, _⟩ := Source.hasSection_of_sectionAt (found last (by omega))
        have inside := bounded _ header read
        omega
  rcases ending with ⟨items, _⟩ | ⟨error, items, _⟩
  · rw [items, List.length_map]
    exact Nat.le_of_succ_le short
  · rw [items, List.length_append, List.length_map]
    exact short

namespace Session

variable {session : Session} {source : Source}

theorem length_sections_le {walk : SectionWalk} {length : Nat} (reads : session.source = .ok source)
    (started : session.sections = .ok walk) (positive : 0 < length)
    (bounded : ∀ index entry, source.sectionHeader index = .ok entry → index < length) :
    walk.toList.length ≤ length := by
  rw [sections_of_source reads] at started
  obtain ⟨names, count, _, _, rfl⟩ := SectionWalk.start_eq_ok_iff.mp started
  exact SectionWalk.length_toList_le positive (Nat.le_refl 1) bounded

theorem size_build_le {length : Nat} (reads : session.source = .ok source)
    (bounded : ∀ index entry, source.segmentHeader index = .ok entry → index < length) :
    session.build.value.1.table.size ≤ length := by
  obtain ⟨headers, _, agrees, kept, _⟩ := build_spec reads
  rw [← SegmentTable.length_toList, kept, List.length_map]
  cases count : headers.length with
  | zero => exact Nat.zero_le length
  | succ last =>
      have read := agrees last (by omega)
      rw [Nat.zero_add] at read
      exact bounded last _ read

theorem build_eq_replicate (reads : session.source = .ok source)
    (alike : ∀ count, source.segmentCount = .ok count → ∀ index < count, ∀ other < count,
      source.segmentHeader index = source.segmentHeader other) :
    session.build.value.1.table.toList = [] ∨
      ∃ count segment, source.segmentCount = .ok count ∧
        session.build.value.1.table.toList = List.replicate count segment := by
  obtain ⟨headers, stops, agrees, kept, ending⟩ := build_spec reads
  cases headers with
  | nil => exact Or.inl kept
  | cons first rest =>
      have read := agrees 0 (Nat.succ_pos rest.length)
      rcases ending with ⟨cause, uncounted, _⟩ | ⟨counted, _⟩ |
        ⟨count, cause, counted, short, failed, _⟩
      · rw [Source.StopsAt, uncounted] at stops
        cases stops
      · have same : first :: rest = List.replicate (first :: rest).length first := by
          rw [List.eq_replicate_iff]
          refine ⟨rfl, ?_⟩
          intro header member
          obtain ⟨index, inside, rfl⟩ := List.mem_iff_getElem.mp member
          have here := agrees index inside
          rw [alike _ counted (0 + index) (by omega) 0 (by simp), read] at here
          exact (Except.ok.inj here).symm
        refine Or.inr ⟨_, Segment.ofHeader first, counted, ?_⟩
        rw [kept, same, List.map_replicate, List.length_replicate]
      · have again := alike count counted (0 + 0) (by omega) _ short
        rw [read, failed] at again
        cases again

end Session

theorem Image.size_of_header {bytes : Array UInt8} {header : FileHeader}
    (decoded : (ofBytes bytes).value.header = some header) : 0 < bytes.size := by
  rw [value_ofBytes] at decoded
  split at decoded
  next present => exact Nat.lt_of_lt_of_le (by decide) (hasHeader_iff.mp present).1
  next => cases decoded

/-- No count that a file announces makes it longer. If the entries of a table stand apart, no more
of them can be read than the file has bytes, a walk over its sections has no more items than that,
its error included, and a build loads no more segments. If they all stand at one place, they are
all alike, and a build loads either none or as many equal ones as the count says. -/
theorem announced_counts_bounded {bytes : Array UInt8} {header : FileHeader}
    (decoded : (Image.ofBytes bytes).value.header = some header) :
    let image := (Image.ofBytes bytes).value
    BoundedByStride header.shentsize.toNat bytes.size image.sectionCount image.sectionHeader ∧
    BoundedByStride header.phentsize.toNat bytes.size image.segmentCount image.segmentHeader ∧
    ∀ session : Session, session.source = .ok image.source →
      (1 ≤ header.shentsize.toNat → ∀ walk, session.sections = .ok walk →
        walk.toList.length ≤ bytes.size) ∧
      (1 ≤ header.phentsize.toNat → session.build.value.1.table.size ≤ bytes.size) ∧
      (header.phentsize.toNat = 0 → session.build.value.1.table.toList = [] ∨
        ∃ count segment, image.segmentCount = .ok count ∧
          session.build.value.1.table.toList = List.replicate count segment) := by
  intro image
  have parsed : image.parsedHeader = .ok header := Image.parsedHeader_of_some decoded
  have same : image.bytes = bytes := Image.bytes_ofBytes bytes
  have sections : BoundedByStride header.shentsize.toNat image.bytes.size image.sectionCount
      image.sectionHeader :=
    header.sectionTable.boundedByStride (SectionHeader.layout_size_pos header.fileClass)
      fun _ counted _ => Image.sectionHeader_of_lt parsed counted
  have segments : BoundedByStride header.phentsize.toNat image.bytes.size image.segmentCount
      image.segmentHeader :=
    header.segmentTable.boundedByStride (SegmentHeader.layout_size_pos header.fileClass)
      fun _ counted _ => Image.segmentHeader_of_lt parsed counted
  rw [same] at sections segments
  refine ⟨sections, segments, ?_⟩
  intro session reads
  refine ⟨?walk, ?build, ?alike⟩
  case walk =>
    intro apart walk started
    apply Session.length_sections_le reads started (Image.size_of_header decoded)
    intro index entry read
    exact same ▸ Image.lt_size_of_sectionHeader parsed apart read
  case build =>
    intro apart
    apply Session.size_build_le reads
    intro index entry read
    exact same ▸ Image.lt_size_of_segmentHeader parsed apart read
  case alike =>
    intro together
    exact Session.build_eq_replicate reads (segments.together together)

/-- The entries of both tables are one byte apart, and both counts stand in the first section
header. -/
def boastfulHeader : FileHeader :=
  ⟨.bits64, .little, 2, 62, 1, 0, 64, 64, 0, 64, 1, 0xffff, 1, 0, 0⟩

def boastfulBytes : Array UInt8 :=
  (boastfulHeader.written 1 (List.replicate 9 0) ++
    (SectionHeader.mk 0 0 0 0 0 (2 ^ 64 - 1) 0 (2 ^ 32 - 1) 0 0).written .little .bits64).toArray

def stackedHeader : FileHeader :=
  ⟨.bits64, .big, 2, 62, 1, 0, 8, 0, 0, 64, 0, 3, 0, 0, 0⟩

def stackedBytes : Array UInt8 := (stackedHeader.written 1 (List.replicate 9 0)).toArray

theorem announced_counts_bounded_boastful :
    let boastful := (Image.ofBytes boastfulBytes).value
    (boastful.sectionCount = .ok (2 ^ 64 - 1) ∧ boastful.segmentCount = .ok (2 ^ 32 - 1) ∧
      (readable (2 ^ 64 - 1) boastful.sectionHeader).encard ≤ boastfulBytes.size ∧
      ∃ session walk, Session.ofBytes boastfulBytes = .ok session ∧
        session.sections = .ok walk ∧ walk.count = 2 ^ 64 - 1 ∧
        walk.toList.length ≤ boastfulBytes.size ∧
        session.build.value.1.table.size ≤ boastfulBytes.size) ∧
    ∃ session segment, Session.ofBytes stackedBytes = .ok session ∧
      session.build.value.1.table.toList = List.replicate 3 segment := by
  intro boastful
  constructor
  · have decoded : boastful.header = some boastfulHeader := by decide +kernel
    have named : boastful.nameTable = .ok 0 := by decide +kernel
    have sectionCount : boastful.sectionCount = .ok (2 ^ 64 - 1) := by decide +kernel
    have segmentCount : boastful.segmentCount = .ok (2 ^ 32 - 1) := by decide +kernel
    let session : Session :=
      .elf boastful.source (boastful.width.toOption.getD .unknown) boastful.ident .empty
    have opened : Session.ofBytes boastfulBytes = .ok session :=
      Session.ofBytes_of_elf (by decide +kernel)
    have reads : session.source = .ok boastful.source := rfl
    obtain ⟨walk, started, announced⟩ :
        ∃ walk, session.sections = .ok walk ∧ walk.count = 2 ^ 64 - 1 := by
      rw [Session.sections_of_source reads]
      exact ⟨_, SectionWalk.start_eq_ok_iff.mpr ⟨_, _, named, sectionCount, rfl⟩, rfl⟩
    obtain ⟨sections, _, sessions⟩ := announced_counts_bounded decoded
    obtain ⟨walks, builds, _⟩ := sessions session reads
    exact ⟨sectionCount, segmentCount, sections.apart (by decide) _ sectionCount, session, walk,
      opened, started, announced, walks (by decide) walk started, builds (by decide)⟩
  · let stacked := (Image.ofBytes stackedBytes).value
    have decoded : stacked.header = some stackedHeader := by decide +kernel
    have counted : stacked.segmentCount = .ok 3 := by decide +kernel
    let session : Session :=
      .elf stacked.source (stacked.width.toOption.getD .unknown) stacked.ident .empty
    have opened : Session.ofBytes stackedBytes = .ok session :=
      Session.ofBytes_of_elf (by decide +kernel)
    have loaded : session.build.value.1.table.toList ≠ [] := by decide +kernel
    obtain ⟨_, _, sessions⟩ := announced_counts_bounded decoded
    rcases (sessions session rfl).2.2 (by decide) with nothing | ⟨count, segment, again, full⟩
    · exact absurd nothing loaded
    · cases counted.symm.trans again
      exact ⟨session, segment, opened, full⟩

end ElfTables

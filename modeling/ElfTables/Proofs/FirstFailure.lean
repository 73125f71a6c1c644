import ElfTables.Proofs.Opening
import ElfTables.Proofs.SegmentLoads
import ElfTables.Proofs.StandardForm
import ElfTables.Proofs.TableEntries

namespace ElfTables

/-- Below the count, an index that cannot be read has none that can behind it. -/
def FailsOnward {α : Type} (count : Nat) (read : Nat → Except ReadError α) : Prop :=
  ∀ index later, index ≤ later → later < count →
    (∃ cause, read index = .error cause) → ∃ cause, read later = .error cause

theorem FailsOnward.congr {α : Type} {count : Nat} {read other : Nat → Except ReadError α}
    (fails : FailsOnward count read) (same : ∀ index < count, other index = read index) :
    FailsOnward count other := by
  intro index later le below
  rw [same index (Nat.lt_of_le_of_lt le below), same later below]
  exact fails index later le below

namespace EntryTable

theorem position_mono (table : EntryTable) {index later : Nat} (le : index ≤ later) :
    table.position index ≤ table.position later :=
  Nat.add_le_add_left (Nat.mul_le_mul_right _ le) _

theorem failsOnward_read {Field α : Type} [DecidableEq Field] (table : EntryTable)
    (layout : Layout Field) (order : ByteOrder) (bytes : Array UInt8) (make : (Field → Nat) → α)
    (count : Nat) :
    FailsOnward count fun index => (table.read layout order bytes index).map make := by
  intro index later le _ fails
  cases record : table.read layout order bytes later with
  | error cause => exact ⟨cause, congrArg (Except.map make) record⟩
  | ok values =>
      have inside := (table.isOk_read_iff layout order bytes later).mp ⟨values, record⟩
      have earlier := table.position_mono le
      obtain ⟨found, succeeds⟩ := (table.isOk_read_iff layout order bytes index).mpr
        ⟨Nat.lt_of_le_of_lt earlier inside.1,
          Nat.le_trans (Nat.add_le_add_right earlier _) inside.2⟩
      obtain ⟨cause, failed⟩ := fails
      simp only [succeeds] at failed
      cases failed

end EntryTable

namespace Image

variable {image : Image} {count : Nat}

theorem failsOnward_segmentHeader (counted : image.segmentCount = .ok count) :
    FailsOnward count image.segmentHeader := by
  obtain ⟨header, decoded⟩ := exists_header_of_segmentCount counted
  have fails : FailsOnward count (header.segmentEntry image.bytes) :=
    header.segmentTable.failsOnward_read _ header.order image.bytes SegmentHeader.ofFields count
  exact fails.congr fun _ below => segmentHeader_of_lt decoded counted below

theorem failsOnward_sectionHeader (counted : image.sectionCount = .ok count) :
    FailsOnward count image.sectionHeader := by
  obtain ⟨header, decoded⟩ := exists_header_of_sectionCount counted
  have fails : FailsOnward count (header.sectionEntry image.bytes) :=
    header.sectionTable.failsOnward_read _ header.order image.bytes SectionHeader.ofFields count
  exact fails.congr fun _ below => sectionHeader_of_lt decoded counted below

theorem readable_iff_lt {stop : Nat} (counted : image.segmentCount = .ok count)
    (before : ∀ index < stop, ∃ header, image.segmentHeader index = .ok header)
    (failed : ∃ cause, image.segmentHeader stop = .error cause) (index : Nat) :
    (∃ header, image.segmentHeader index = .ok header) ↔ index < stop := by
  refine ⟨?_, before index⟩
  rintro ⟨header, read⟩
  by_contra behind
  -- The count is fetched again for every index, so beyond it another error answers.
  by_cases below : index < count
  · obtain ⟨cause, fails⟩ :=
      failsOnward_segmentHeader counted stop index (Nat.le_of_not_lt behind) below failed
    rw [fails] at read
    cases read
  · rw [segmentHeader_of_le counted (Nat.le_of_not_lt below)] at read
    cases read

end Image

theorem Session.stopped_of_build {session : Session} {source : Source} {stop : Nat}
    {cause : ReadError} (reads : session.source = .ok source)
    (stopped : session.build.value.2 = .error (.segmentHeader stop cause)) :
    ∃ count, source.segmentCount = .ok count ∧ stop < count ∧
      (∀ index < stop, ∃ header, source.segmentHeader index = .ok header) ∧
      source.segmentHeader stop = .error cause := by
  obtain ⟨headers, _, agrees, _, ending⟩ := build_spec reads
  rcases ending with ⟨other, _, outcome⟩ | ⟨_, outcome⟩ |
    ⟨count, other, counted, short, failed, outcome⟩
  · rw [outcome] at stopped
    cases stopped
  · rw [outcome] at stopped
    cases stopped
  · rw [outcome] at stopped
    cases stopped
    refine ⟨count, counted, short, ?_, failed⟩
    intro index before
    have read := agrees index before
    rw [Nat.zero_add] at read
    exact ⟨_, read⟩

/-- Behind the first entry that cannot be read there is none that can, so a build that stops there
has read every header that can be read. What stops it is the end of the address space or of the
bytes. -/
theorem readable_before_first_failure (image : Image) :
    (∀ count, image.segmentCount = .ok count → FailsOnward count image.segmentHeader) ∧
    (∀ count, image.sectionCount = .ok count → FailsOnward count image.sectionHeader) ∧
    ∀ (session : Session) stop cause, session.source = .ok image.source →
      session.build.value.2 = .error (.segmentHeader stop cause) →
      (∀ index, (∃ header, image.segmentHeader index = .ok header) ↔ index < stop) ∧
      ∃ header, image.parsedHeader = .ok header ∧
        header.segmentTable.Unreadable (SegmentHeader.layout header.fileClass) image.bytes stop
          cause := by
  refine ⟨fun _ => Image.failsOnward_segmentHeader, fun _ => Image.failsOnward_sectionHeader, ?_⟩
  intro session stop cause reads stopped
  obtain ⟨count, counted, short, before, failed⟩ := session.stopped_of_build reads stopped
  exact ⟨Image.readable_iff_lt counted before ⟨cause, failed⟩,
    Image.unreadable_of_segmentHeader counted short failed⟩

/-- A 32-bit object whose segment table lies over its header: five entries, each one byte behind
the one before, of which only the first ends inside the bytes. -/
def overlaidBytes : Array UInt8 :=
  ((FileHeader.mk .bits32 .little 2 3 1 0 20 0 0 52 1 5 0 0 0).written 1
    (List.replicate 9 0)).toArray

theorem readable_before_first_failure_overlaid :
    let image := (Image.ofBytes overlaidBytes).value
    ∃ session, Session.ofBytes overlaidBytes = .ok session ∧ session.source = .ok image.source ∧
      session.build.value.2 = .error (.segmentHeader 1 (.truncated ⟨4, 3⟩)) ∧
      ∀ index, (∃ header, image.segmentHeader index = .ok header) ↔ index < 1 := by
  intro image
  obtain ⟨session, opened, reads, stopped⟩ : ∃ session,
      Session.ofBytes overlaidBytes = .ok session ∧ session.source = .ok image.source ∧
        session.build.value.2 = .error (.segmentHeader 1 (.truncated ⟨4, 3⟩)) :=
    ⟨_, rfl, rfl, rfl⟩
  exact ⟨session, opened, reads, stopped,
    ((readable_before_first_failure image).2.2 session _ _ reads stopped).1⟩

end ElfTables

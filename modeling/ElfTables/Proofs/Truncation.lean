import ElfTables.Proofs.Opening
import ElfTables.Proofs.SourceExtension
import ElfTables.Proofs.StoredHeaders

/-!
Objects cut short. Cutting bytes off the end turns answers into errors and never into other
answers (`Image.kept_append`).
-/
namespace ElfTables

variable {bytes : Array UInt8}

theorem byteAt_append (tail : Array UInt8) {index : Nat} (inside : index < bytes.size) :
    byteAt (bytes ++ tail) index = byteAt bytes index := by
  rw [byteAt, byteAt, Array.getD_eq_getD_getElem?, Array.getD_eq_getD_getElem?,
    Array.getElem?_append_left inside]

theorem terminated?_append (tail : Array UInt8) {start length : Nat} {name : List UInt8}
    (found : terminated? bytes start length = some name) :
    terminated? (bytes ++ tail) start length = some name := by
  obtain ⟨finish, ending, rfl⟩ := Option.map_eq_some_iff.mp found
  obtain ⟨lower, upper, zero, earlier⟩ := firstZero?_eq_some_iff.mp ending
  have inside : finish < bytes.size := (Array.getElem?_eq_some_iff.mp zero).1
  have same : firstZero? (bytes ++ tail) start length = some finish := by
    rw [firstZero?_eq_some_iff]
    refine ⟨lower, upper, ?_, ?_⟩
    · rwa [Array.getElem?_append_left inside]
    · intro position after before
      rw [Array.getElem?_append_left (Nat.lt_trans before inside)]
      exact earlier position after before
  rw [terminated?, same, Option.map_some, extract_append_of_le tail start (Nat.le_of_lt inside)]

theorem FileHeader.decode_append (tail : Array UInt8)
    (room : Identification.size ≤ bytes.size) : Keeps (decode bytes) (decode (bytes ++ tail)) := by
  have classByte : byteAt (bytes ++ tail) Identification.classIndex =
      byteAt bytes Identification.classIndex :=
    byteAt_append tail (Nat.lt_of_lt_of_le (by decide) room)
  have orderByte : byteAt (bytes ++ tail) Identification.orderIndex =
      byteAt bytes Identification.orderIndex :=
    byteAt_append tail (Nat.lt_of_lt_of_le (by decide) room)
  intro header succeeds
  rw [decode] at succeeds ⊢
  rw [classByte, orderByte]
  cases class_known : FileClass.ofCode? (byteAt bytes Identification.classIndex) with
  | none =>
      simp only [class_known] at succeeds
      cases succeeds
  | some fileClass =>
      cases order_known : ByteOrder.ofCode? (byteAt bytes Identification.orderIndex) with
      | none =>
          simp only [class_known, order_known] at succeeds
          cases succeeds
      | some order =>
          cases record : (layout fileClass).read order bytes Identification.size with
          | error shortfall =>
              simp only [class_known, order_known, record] at succeeds
              cases succeeds
          | ok value =>
              simp only [class_known, order_known, record] at succeeds
              simp only [Layout.read_append order tail record, succeeds]

namespace Image

structure KeptBy (earlier later : Image) : Prop where
  bytes : ∃ tail, later.bytes = earlier.bytes ++ tail
  header : Keeps earlier.parsedHeader later.parsedHeader

namespace KeptBy

variable {earlier later : Image}

theorem rawSectionHeader (kept : earlier.KeptBy later) (index : Nat) :
    Keeps (earlier.rawSectionHeader index) (later.rawSectionHeader index) := by
  obtain ⟨tail, longer⟩ := kept.bytes
  refine kept.header.bind ?_
  intro header
  apply Keeps.ite
  · exact Keeps.refl _
  · refine Keeps.bind ?_ (fun value => Keeps.refl _)
    intro value succeeds
    rw [longer]
    exact EntryTable.read_append _ _ header.order tail succeeds

theorem segmentCount (kept : earlier.KeptBy later) :
    Keeps earlier.segmentCount later.segmentCount := by
  refine kept.header.bind ?_
  intro header
  apply Keeps.ite
  · exact (kept.rawSectionHeader 0).bind (fun first => Keeps.refl _)
  · exact Keeps.refl _

theorem segmentHeader (kept : earlier.KeptBy later) (index : Nat) :
    Keeps (earlier.segmentHeader index) (later.segmentHeader index) := by
  obtain ⟨tail, longer⟩ := kept.bytes
  refine kept.segmentCount.bind ?_
  intro count
  apply Keeps.ite
  · exact Keeps.refl _
  · refine kept.header.bind ?_
    intro header
    refine Keeps.bind ?_ (fun value => Keeps.refl _)
    intro value succeeds
    rw [longer]
    exact EntryTable.read_append _ _ header.order tail succeeds

theorem sectionCount (kept : earlier.KeptBy later) :
    Keeps earlier.sectionCount later.sectionCount := by
  refine kept.header.bind ?_
  intro header
  apply Keeps.ite
  · exact Keeps.refl _
  · apply Keeps.ite
    · exact (kept.rawSectionHeader 0).bind (fun first => Keeps.refl _)
    · exact Keeps.refl _

theorem sectionHeader (kept : earlier.KeptBy later) (index : Nat) :
    Keeps (earlier.sectionHeader index) (later.sectionHeader index) := by
  refine kept.sectionCount.bind ?_
  intro count
  apply Keeps.ite
  · exact Keeps.refl _
  · exact kept.rawSectionHeader index

theorem nameTable (kept : earlier.KeptBy later) : Keeps earlier.nameTable later.nameTable := by
  refine kept.header.bind ?_
  intro header
  apply Keeps.ite
  · exact (kept.rawSectionHeader 0).bind (fun first => Keeps.refl _)
  · exact Keeps.refl _

theorem stringAt (kept : earlier.KeptBy later) (table offset : Nat) :
    Keeps (earlier.stringAt table offset) (later.stringAt table offset) := by
  obtain ⟨tail, longer⟩ := kept.bytes
  refine (kept.sectionHeader table).bind ?_
  intro header
  apply Keeps.ite
  · cases run : earlier.nameBytes? header offset with
    | none => exact Keeps.of_error _ _
    | some name =>
        have same : later.nameBytes? header offset = some name := by
          rw [nameBytes?, longer]
          exact terminated?_append tail run
        rw [same]
        exact Keeps.refl _
  · exact Keeps.refl _

theorem source (kept : earlier.KeptBy later) : earlier.source.KeptBy later.source where
  segmentCount := kept.segmentCount
  segmentHeader := kept.segmentHeader
  sectionCount := kept.sectionCount
  sectionHeader := kept.sectionHeader
  nameTable := kept.nameTable
  stringAt := kept.stringAt

end KeptBy

section Append

variable (tail : Array UInt8) (room : FileHeader.minimumSize ≤ bytes.size)
include room

theorem identification_le : Identification.size + 2 ≤ bytes.size :=
  Nat.le_trans (by decide) room

theorem hasHeader_append : hasHeader (bytes ++ tail) = hasHeader bytes := by
  have front : Identification.magic.length ≤ bytes.size := Nat.le_trans (by decide) room
  have longer : FileHeader.minimumSize ≤ (bytes ++ tail).size := by
    rw [Array.size_append]
    exact Nat.le_add_right_of_le room
  simp only [hasHeader, extract_append_of_le tail 0 front, room, longer]

theorem rawType_append : rawType (bytes ++ tail) = rawType bytes := by
  have inside := identification_le room
  have orderByte : byteAt (bytes ++ tail) Identification.orderIndex =
      byteAt bytes Identification.orderIndex :=
    byteAt_append tail (Nat.lt_of_lt_of_le (by decide) inside)
  rw [rawType, rawType, orderByte, extract_append_of_le tail Identification.size inside]

theorem type_append : (ofBytes (bytes ++ tail)).value.type = (ofBytes bytes).value.type := by
  rw [value_ofBytes, value_ofBytes, hasHeader_append tail room, rawType_append tail room]
  cases hasHeader bytes <;> rfl

theorem kept_append : (ofBytes bytes).value.KeptBy (ofBytes (bytes ++ tail)).value := by
  rw [value_ofBytes, value_ofBytes, hasHeader_append tail room]
  cases hasHeader bytes with
  | false => exact ⟨⟨tail, rfl⟩, Keeps.refl _⟩
  | true =>
      refine ⟨⟨tail, rfl⟩, ?_⟩
      have inside := Nat.le_of_add_right_le (identification_le room)
      cases decoded : FileHeader.decode bytes with
      | error cause => exact Keeps.of_error _ _
      | ok header =>
          have again := FileHeader.decode_append tail inside header decoded
          simp only [again, if_true]
          exact Keeps.refl _

theorem kind_append : (ofBytes (bytes ++ tail)).value.kind = (ofBytes bytes).value.kind := by
  rw [kind, kind, type_append tail room]

theorem ident_append : (ofBytes (bytes ++ tail)).value.ident = (ofBytes bytes).value.ident := by
  have inside := Nat.le_of_add_right_le (identification_le room)
  rw [ident, ident, type_append tail room, bytes_ofBytes, bytes_ofBytes,
    extract_append_of_le tail 0 inside]

theorem width_append : (ofBytes (bytes ++ tail)).value.width = (ofBytes bytes).value.width := by
  have inside := identification_le room
  have versionByte : byteAt (bytes ++ tail) Identification.versionIndex =
      byteAt bytes Identification.versionIndex :=
    byteAt_append tail (Nat.lt_of_lt_of_le (by decide) inside)
  have classByte : byteAt (bytes ++ tail) Identification.classIndex =
      byteAt bytes Identification.classIndex :=
    byteAt_append tail (Nat.lt_of_lt_of_le (by decide) inside)
  rw [width, width, type_append tail room, bytes_ofBytes, bytes_ofBytes, versionByte, classByte]

end Append

end Image

/-- More bytes at the end of an object change no answer and may only replace errors. -/
theorem answers_of_append {shorter longer : Handle} (healthy : shorter.Healthy)
    (also : longer.Healthy) {tail : Array UInt8}
    (appended : longer.content = shorter.content ++ tail)
    (room : 52 ≤ shorter.content.size) :
    let earlier := (Image.ofBytes shorter.content).value
    let later := (Image.ofBytes longer.content).value
    (later.kind = earlier.kind ∧ later.ident = earlier.ident ∧ later.width = earlier.width) ∧
    (Keeps earlier.segmentCount later.segmentCount ∧
      Keeps earlier.sectionCount later.sectionCount ∧
      Keeps earlier.nameTable later.nameTable ∧
      (∀ index, Keeps (earlier.segmentHeader index) (later.segmentHeader index)) ∧
      (∀ index, Keeps (earlier.sectionHeader index) (later.sectionHeader index)) ∧
      ∀ table offset, Keeps (earlier.stringAt table offset) (later.stringAt table offset)) ∧
    ∃ opened extended, (Session.ofHandle shorter).value = .ok opened ∧
      (Session.ofHandle longer).value = .ok extended ∧
      (extended.isElf = opened.isElf ∧ extended.ident = opened.ident ∧
        extended.width = opened.width) ∧
      opened.build.value.1.table.toList <+: extended.build.value.1.table.toList ∧
      (opened.build.value.2 = .ok () →
        extended.build.value.2 = .ok () ∧
          extended.build.value.1.table = opened.build.value.1.table) ∧
      (∀ walk, opened.sections = .ok walk →
        ∃ farther, extended.sections = .ok farther ∧
          walk.toList.filter Except.isOk <+: farther.toList) ∧
      ∀ name, Keeps (opened.findSection name).value (extended.findSection name).value := by
  rw [appended, Session.value_ofHandle_of_healthy healthy, Session.value_ofHandle_of_healthy also,
    appended]
  have kept := Image.kept_append tail room
  have sameKind := Image.kind_append tail room
  have sameIdent := Image.ident_append tail room
  have sameWidth := Image.width_append tail room
  refine ⟨⟨sameKind, sameIdent, sameWidth⟩, ⟨kept.segmentCount, kept.sectionCount, kept.nameTable,
    kept.segmentHeader, kept.sectionHeader, kept.stringAt⟩, ?_⟩
  cases kind : (Image.ofBytes shorter.content).value.kind with
  | other =>
      rw [kind] at sameKind
      refine ⟨.inert, .inert, Session.ofBytes_of_other kind, Session.ofBytes_of_other sameKind,
        ⟨rfl, rfl, rfl⟩, List.prefix_refl _, ?_, ?_, ?_⟩
      · intro succeeds
        cases succeeds
      · intro walk started
        cases started
      · intro name
        exact Keeps.refl _
  | elf =>
      rw [kind] at sameKind
      have again := Session.ofBytes_of_elf sameKind
      rw [sameWidth, sameIdent] at again
      refine ⟨_, _, Session.ofBytes_of_elf kind, again, ⟨rfl, rfl, rfl⟩,
        Session.build_isPrefix _ _ _ kept.source, Session.build_of_kept _ _ _ kept.source, ?_, ?_⟩
      · intro walk started
        obtain ⟨farther, begun, items⟩ := SectionWalk.start_kept kept.source started
        exact ⟨farther, begun, items.filter_isOk_isPrefix⟩
      · intro name
        rw [Session.value_findSection, Session.value_findSection]
        exact SectionWalk.find?_kept kept.source name

def cutHeader : FileHeader where
  fileClass := .bits32
  order := .little
  type := 2
  machine := 3
  version := 1
  entry := 0x8048000
  phoff := 52
  shoff := 0
  flags := 0
  ehsize := 52
  phentsize := 32
  phnum := 2
  shentsize := 0
  shnum := 0
  shstrndx := 0

def cutHandle : Handle where
  content := (cutHeader.written 1 (List.replicate 9 0) ++
    SegmentHeader.written .little ⟨1, 5, 0, 0x8048000, 0, 0x100, 0x100, 16⟩ .bits32 ++
    (SegmentHeader.written .little ⟨1, 6, 0x100, 0x8049000, 0, 0x20, 0x40, 16⟩ .bits32).take
      10).toArray

def cutTail : Array UInt8 :=
  ((SegmentHeader.written .little ⟨1, 6, 0x100, 0x8049000, 0, 0x20, 0x40, 16⟩ .bits32).drop
    10).toArray

theorem answers_of_append_cut :
    cutHandle.Healthy ∧ { cutHandle with content := cutHandle.content ++ cutTail }.Healthy ∧
      52 ≤ cutHandle.content.size ∧
      ∃ opened extended, (Session.ofHandle cutHandle).value = .ok opened ∧
        (Session.ofHandle { cutHandle with content := cutHandle.content ++ cutTail }).value =
          .ok extended ∧
        opened.build.value.1.table.toList <+: extended.build.value.1.table.toList := by
  have healthy : cutHandle.Healthy := ⟨rfl, rfl, by decide⟩
  have also : { cutHandle with content := cutHandle.content ++ cutTail }.Healthy :=
    ⟨rfl, rfl, by decide⟩
  have room : 52 ≤ cutHandle.content.size := by decide +kernel
  obtain ⟨opened, extended, first, second, _, grows, _⟩ :=
    (answers_of_append healthy also rfl room).2.2
  exact ⟨healthy, also, room, opened, extended, first, second, grows⟩

end ElfTables

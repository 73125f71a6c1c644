import ElfTables.Proofs.AgreeingBytes
import ElfTables.Proofs.Classification
import ElfTables.Proofs.SegmentLoads
import ElfTables.Proofs.StandardForm
import ElfTables.Proofs.TableEntries

namespace ElfTables

/-- Objects of one size that agree on all that leads to the segment headers, and on those. -/
structure AgreeOnSegments (bytes other : Array UInt8) : Prop where
  size : bytes.size = other.size
  magic : [0x7f, 0x45, 0x4c, 0x46] <+: bytes.toList
  other_magic : [0x7f, 0x45, 0x4c, 0x46] <+: other.toList
  codes : AgreeOn bytes other 4 6
  fields : AgreeOn bytes other 16 (if byteAt bytes 4 = 1 then 52 else 64)
  first : ∀ header, FileHeader.decode bytes = .ok header → header.phnum = 0xffff →
    header.shoff ≠ 0 →
    AgreeOnWhole bytes other header.shoff.toNat (if header.fileClass = .bits32 then 40 else 64)
  entries : ∀ header count, FileHeader.decode bytes = .ok header →
    (Image.ofBytes bytes).value.segmentCount = .ok count → ∀ index < count,
      AgreeOnWhole bytes other (header.phoff.toNat + index * header.phentsize.toNat)
        (if header.fileClass = .bits32 then 32 else 56)

theorem FileHeader.size_of_ofCode? {code : UInt8} {fileClass : FileClass}
    (known : FileClass.ofCode? code = some fileClass) :
    size fileClass = if code = 1 then 52 else 64 := by
  rw [FileClass.ofCode?] at known
  split at known
  next narrow =>
    cases known
    rw [if_pos narrow, size_bits32]
  next other =>
    split at known
    next =>
      cases known
      rw [if_neg other, size_bits64]
    next => cases known

namespace AgreeOnSegments

variable {bytes other : Array UInt8}

theorem decode_eq (agree : AgreeOnSegments bytes other) :
    FileHeader.decode bytes = FileHeader.decode other := by
  have classByte : byteAt bytes Identification.classIndex =
      byteAt other Identification.classIndex := agree.codes.byteAt_eq (by decide) (by decide)
  have orderByte : byteAt bytes Identification.orderIndex =
      byteAt other Identification.orderIndex := agree.codes.byteAt_eq (by decide) (by decide)
  rw [FileHeader.decode, FileHeader.decode, ← classByte, ← orderByte]
  cases known : FileClass.ofCode? (byteAt bytes Identification.classIndex) with
  | none => rfl
  | some fileClass =>
      have fields := agree.fields
      rw [show byteAt bytes 4 = byteAt bytes Identification.classIndex from rfl,
        ← FileHeader.size_of_ofCode? known] at fields
      cases ByteOrder.ofCode? (byteAt bytes Identification.orderIndex) with
      | none => rfl
      | some order =>
          have record : (FileHeader.layout fileClass).read order bytes Identification.size =
              (FileHeader.layout fileClass).read order other Identification.size :=
            Layout.read_congr agree.size fields
          simp only [record]

theorem hasHeader_eq (agree : AgreeOnSegments bytes other) :
    Image.hasHeader bytes = Image.hasHeader other := by
  rw [Bool.eq_iff_iff, Image.hasHeader_iff, Image.hasHeader_iff, agree.size]
  simp only [agree.magic, agree.other_magic]

theorem rawType_eq (agree : AgreeOnSegments bytes other) :
    Image.rawType bytes = Image.rawType other := by
  have orderByte : byteAt bytes Identification.orderIndex =
      byteAt other Identification.orderIndex := agree.codes.byteAt_eq (by decide) (by decide)
  have type : AgreeOn bytes other Identification.size (Identification.size + 2) := by
    apply agree.fields.mono le_rfl
    split <;> decide
  rw [Image.rawType, Image.rawType, orderByte, type.extract_eq agree.size]

theorem kind_eq (agree : AgreeOnSegments bytes other) :
    (Image.ofBytes bytes).value.kind = (Image.ofBytes other).value.kind := by
  have type : (Image.ofBytes bytes).value.type = (Image.ofBytes other).value.type := by
    rw [Image.value_ofBytes, Image.value_ofBytes, agree.hasHeader_eq, agree.rawType_eq]
    cases Image.hasHeader other <;> rfl
  rw [Image.kind, Image.kind, type]

theorem parsedHeader_eq (agree : AgreeOnSegments bytes other) :
    (Image.ofBytes bytes).value.parsedHeader = (Image.ofBytes other).value.parsedHeader := by
  have header : (Image.ofBytes bytes).value.header = (Image.ofBytes other).value.header := by
    rw [Image.value_ofBytes, Image.value_ofBytes, agree.hasHeader_eq, agree.decode_eq]
    cases Image.hasHeader other <;> rfl
  rw [Image.parsedHeader, Image.parsedHeader, header]

end AgreeOnSegments

namespace AgreeOnSegments

variable {bytes other : Array UInt8} {header : FileHeader}

theorem rawSectionHeader_eq (agree : AgreeOnSegments bytes other)
    (parsed : (Image.ofBytes bytes).value.parsedHeader = .ok header)
    (extended : header.phnum = Image.extended) :
    (Image.ofBytes bytes).value.rawSectionHeader 0 =
      (Image.ofBytes other).value.rawSectionHeader 0 := by
  have again := agree.parsedHeader_eq.symm.trans parsed
  by_cases absent : header.shoff = 0
  · rw [Image.rawSectionHeader_of_absent parsed absent,
      Image.rawSectionHeader_of_absent again absent]
  · have start : header.sectionTable.position 0 = header.shoff.toNat := by
      rw [EntryTable.position, Nat.zero_mul, Nat.add_zero]
      rfl
    have entry := agree.first header (Image.decode_of_parsedHeader parsed) extended absent
    rw [← SectionHeader.size_layout, ← start] at entry
    calc
      _ = header.sectionEntry bytes 0 := by
        rw [Image.rawSectionHeader_of_present parsed absent, Image.bytes_ofBytes]
      _ = header.sectionEntry other 0 := by
        rw [FileHeader.sectionEntry, FileHeader.sectionEntry,
          EntryTable.read_congr header.sectionTable agree.size entry]
      _ = (Image.ofBytes other).value.rawSectionHeader 0 := by
        rw [Image.rawSectionHeader_of_present again absent, Image.bytes_ofBytes]

theorem segmentCount_eq (agree : AgreeOnSegments bytes other) :
    (Image.ofBytes bytes).value.segmentCount = (Image.ofBytes other).value.segmentCount := by
  rw [Image.segmentCount, Image.segmentCount, ← agree.parsedHeader_eq]
  cases parsed : (Image.ofBytes bytes).value.parsedHeader with
  | error cause => rfl
  | ok header =>
      by_cases extended : header.phnum = Image.extended
      · simp only [bind, Except.bind, extended, if_true, agree.rawSectionHeader_eq parsed extended]
      · simp only [bind, Except.bind, extended, if_false]

theorem segmentHeader_eq (agree : AgreeOnSegments bytes other) (index : Nat) :
    (Image.ofBytes bytes).value.segmentHeader index =
      (Image.ofBytes other).value.segmentHeader index := by
  have counts := agree.segmentCount_eq
  cases counted : (Image.ofBytes bytes).value.segmentCount with
  | error cause =>
      simp only [Image.segmentHeader, ← counts, counted, bind, Except.bind]
  | ok count =>
      have recounted := counts.symm.trans counted
      by_cases below : index < count
      · rcases Image.exists_header_of_segmentCount counted with ⟨header, parsed⟩
        have again := agree.parsedHeader_eq.symm.trans parsed
        have entry := agree.entries header count (Image.decode_of_parsedHeader parsed) counted
          index below
        rw [← SegmentHeader.size_layout] at entry
        calc
          _ = header.segmentEntry bytes index := by
            rw [Image.segmentHeader_of_lt parsed counted below, Image.bytes_ofBytes]
          _ = header.segmentEntry other index := by
            rw [FileHeader.segmentEntry, FileHeader.segmentEntry,
              EntryTable.read_congr header.segmentTable agree.size entry]
          _ = (Image.ofBytes other).value.segmentHeader index := by
            rw [Image.segmentHeader_of_lt again recounted below, Image.bytes_ofBytes]
      · rw [Image.segmentHeader_of_le counted (Nat.le_of_not_lt below),
          Image.segmentHeader_of_le recounted (Nat.le_of_not_lt below)]

end AgreeOnSegments

namespace SegmentTable

variable {source other : Source}

theorem appendFrom_congr (headers : ∀ index, source.segmentHeader index = other.segmentHeader index)
    (table : SegmentTable) (index count : Nat) :
    appendFrom source table index count = appendFrom other table index count := by
  induction count generalizing table index with
  | zero => rfl
  | succ count ih => simp only [appendFrom, headers, ih]

theorem load_congr (counts : source.segmentCount = other.segmentCount)
    (headers : ∀ index, source.segmentHeader index = other.segmentHeader index)
    (table : SegmentTable) : table.load source = table.load other := by
  simp only [load, counts, appendFrom_congr headers]

end SegmentTable

namespace Session

/-- Whatever else differs, objects that agree on their segments are both ELF objects or both not,
and a build gives the same table and the same error for both. -/
theorem build_of_agreeing {handle other : Handle} (healthy : handle.Healthy)
    (also : other.Healthy) (agree : AgreeOnSegments handle.content other.content) :
    ∃ session again, (ofHandle handle).value = .ok session ∧ (ofHandle other).value = .ok again ∧
      session.isElf = again.isElf ∧
      session.build.value.2 = again.build.value.2 ∧
      session.build.value.1.table = again.build.value.1.table ∧
      ∀ address, session.build.value.1.table.fileOffset? address =
        again.build.value.1.table.fileOffset? address := by
  rw [value_ofHandle_of_healthy healthy, value_ofHandle_of_healthy also]
  have kinds := agree.kind_eq
  cases kind : (Image.ofBytes handle.content).value.kind with
  | elf =>
      have same : SegmentTable.empty.load (Image.ofBytes handle.content).value.source =
          SegmentTable.empty.load (Image.ofBytes other.content).value.source :=
        SegmentTable.load_congr agree.segmentCount_eq agree.segmentHeader_eq .empty
      refine ⟨_, _, ofBytes_of_elf kind, ofBytes_of_elf (kinds.symm.trans kind), rfl, ?_⟩
      rw [value_build_elf, value_build_elf, same]
      exact ⟨rfl, rfl, fun _ => rfl⟩
  | other =>
      exact ⟨_, _, ofBytes_of_other kind, ofBytes_of_other (kinds.symm.trans kind), rfl, rfl, rfl,
        fun _ => rfl⟩

def countedHeader : FileHeader :=
  ⟨.bits64, .little, 3, 62, 1, 0, 128, 64, 0, 64, 56, 0xffff, 64, 1, 0⟩

def countedHandle (version : UInt8) (padding ending : List UInt8) : Handle where
  content :=
    (countedHeader.written version padding ++
      SectionHeader.written .little ⟨0, 0, 0, 0, 0, 0, 0, 3, 0, 0⟩ .bits64 ++
      SegmentHeader.written .little ⟨1, 5, 0, 0x400000, 0, 0x100, 0x100, 0x1000⟩ .bits64 ++
      SegmentHeader.written .little ⟨1, 6, 0x100, 0x401000, 0, 0x10, 0x80, 0x1000⟩ .bits64 ++
      ending).toArray

theorem build_of_agreeing_counted :
    let handle := countedHandle 1 (List.replicate 9 0) [1, 0, 0, 0, 4]
    let other := countedHandle 7 (List.replicate 9 0xee) [9, 9, 9, 9, 9]
    ∃ session again, (ofHandle handle).value = .ok session ∧ (ofHandle other).value = .ok again ∧
      session.build.value.2 = .error (.segmentHeader 2 (.truncated ⟨4, 1⟩)) ∧
      again.build.value.2 = session.build.value.2 ∧
      again.build.value.1.table = session.build.value.1.table := by
  intro handle other
  have decoded : FileHeader.decode handle.content = .ok countedHeader := by decide +kernel
  have counted : (Image.ofBytes handle.content).value.segmentCount = .ok 3 := by decide +kernel
  have agree : AgreeOnSegments handle.content other.content := by
    refine ⟨by decide +kernel, by decide +kernel, by decide +kernel, by decide +kernel,
      by decide +kernel, ?_, ?_⟩
    · intro header found _ _
      cases Except.ok.inj (decoded.symm.trans found)
      decide +kernel
    · intro header count found same
      cases Except.ok.inj (decoded.symm.trans found)
      cases Except.ok.inj (counted.symm.trans same)
      decide +kernel
  have healthy : handle.Healthy := ⟨rfl, rfl, by decide⟩
  have also : other.Healthy := ⟨rfl, rfl, by decide⟩
  have elf : (Image.ofBytes handle.content).value.kind = .elf := by decide +kernel
  rcases build_of_agreeing healthy also agree with
    ⟨session, again, opened, reopened, _, outcome, table, _⟩
  refine ⟨session, again, opened, reopened, ?_, outcome.symm, table.symm⟩
  rw [value_ofHandle_of_healthy healthy, ofBytes_of_elf elf] at opened
  cases opened
  rw [value_build_elf]
  decide +kernel

end Session

end ElfTables

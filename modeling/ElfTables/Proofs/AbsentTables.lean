import ElfTables.Proofs.HeaderReading
import ElfTables.Proofs.SegmentLoads

/-!
Table offsets of zero. For sections zero stands for no table, and then nothing of one is read. For
segments it is an offset like any other, so the file header's own bytes are read as segment headers
(`Image.zero_offset_hides_sections_only`).
-/
namespace ElfTables

def Identification.magicCode : ByteOrder → UInt32
  | .little => 0x464c457f
  | .big => 0x7f454c46

theorem Identification.numberAt_zero {bytes : Array UInt8}
    (begins : [0x7f, 0x45, 0x4c, 0x46] <+: bytes.toList) (order : ByteOrder) :
    order.numberAt bytes 0 4 = (magicCode order).toNat := by
  have stored : StoredAt bytes 0 [0x7f, 0x45, 0x4c, 0x46] := ⟨Nat.zero_le _, begins⟩
  have front : (bytes.extract 0 4).toList = [0x7f, 0x45, 0x4c, 0x46] := stored.extract
  rw [ByteOrder.numberAt, Nat.zero_add, front]
  cases order <;> rfl

theorem FileHeader.size_le_of_decode {bytes : Array UInt8} {header : FileHeader}
    (room : 52 ≤ bytes.size) (decoded : decode bytes = .ok header) :
    size header.fileClass ≤ bytes.size := by
  rcases decode_eq_ok_iff.mp decoded with ⟨fileClass, order, values, _, _, record, rfl⟩
  have behind : Identification.size ≤ bytes.size := Nat.le_trans (by decide) room
  exact (Layout.isOk_read_iff order bytes (layout fileClass) behind).mp ⟨values, record⟩

theorem SegmentHeader.size_layout_le (fileClass : FileClass) :
    (layout fileClass).size ≤ FileHeader.size fileClass := by
  cases fileClass <;> decide

namespace Session

variable {session : Session} {source : Source}

theorem build_eq_nil_iff (reads : session.source = .ok source)
    (first : ∀ count, source.segmentCount = .ok count → 0 < count →
      ∃ header, source.segmentHeader 0 = .ok header) :
    session.build.value.1.table.toList = [] ↔
      ∀ count, source.segmentCount = .ok count → count = 0 := by
  rcases build_spec reads with ⟨headers, stops, _, kept, _⟩
  rw [kept, List.map_eq_nil_iff]
  cases counted : source.segmentCount with
  | error cause =>
      rw [Source.StopsAt, counted] at stops
      simp only [reduceCtorEq, false_implies, implies_true, iff_true]
      exact List.eq_nil_of_length_eq_zero stops
  | ok count =>
      rw [Source.StopsAt, counted] at stops
      constructor
      · intro none_kept other same
        cases same
        rw [none_kept, List.length_nil] at stops
        rcases stops.1 with zero | ⟨cause, failed⟩
        · exact zero.symm
        · by_contra positive
          rcases first count counted (Nat.pos_of_ne_zero positive) with ⟨header, read⟩
          rw [failed] at read
          cases read
      · intro empty
        have none_counted : headers.length ≤ count := stops.2 (Or.inl rfl)
        rw [empty count rfl] at none_counted
        exact List.eq_nil_of_length_eq_zero (Nat.le_zero.mp none_counted)

end Session

namespace Image

/-- Nothing of a section table is read. There are no sections, and neither a number that the header
has no room for nor a name can be had. -/
structure WithoutSections (image : Image) (header : FileHeader) : Prop where
  sectionCount : image.sectionCount = .ok 0
  rawSectionHeader : ∀ index, image.rawSectionHeader index = .error (.malformed .noSectionTable)
  sectionHeader : ∀ index,
    image.sectionHeader index = .error (.malformed (.sectionOutOfRange index 0))
  segmentCount : header.phnum = 0xffff → image.segmentCount = .error (.malformed .noSectionTable)
  segmentHeader : header.phnum = 0xffff → ∀ index,
    image.segmentHeader index = .error (.malformed .noSectionTable)
  nameTable : header.shstrndx = 0xffff → image.nameTable = .error (.malformed .noSectionTable)
  stringAt : ∀ table offset,
    image.stringAt table offset = .error (.malformed (.sectionOutOfRange table 0))

/-- Segments whose headers are the bytes from the start of the object on. There is one unless
`counted` gives none, and the first is made of the file header. -/
structure ReadFromStart (bytes : Array UInt8) (header : FileHeader)
    (counted : Except ReadError Nat) (segments : List Segment) : Prop where
  nil_iff : segments = [] ↔ ∀ count, counted = .ok count → count = 0
  direct_nil_iff : header.phnum ≠ 0xffff → (segments = [] ↔ header.phnum = 0)
  numbers : ∀ index segment, segments[index]? = some segment → ∃ entry,
    segment = .ofHeader entry ∧
      Layout.NumbersAt (SegmentHeader.place header.fileClass)
        (if header.fileClass = .bits32 then 32 else 56) header.order bytes
        (index * header.phentsize.toNat) entry.field
  code : ∀ segment, segments[0]? = some segment →
    segment.code = Identification.magicCode header.order

variable {image : Image} {header : FileHeader}

theorem withoutSections (parsed : image.parsedHeader = .ok header) (absent : header.shoff = 0) :
    image.WithoutSections header := by
  have unread : ∀ index, image.rawSectionHeader index = .error (.malformed .noSectionTable) :=
    rawSectionHeader_of_absent parsed absent
  have empty : image.sectionCount = .ok 0 := by
    simp only [sectionCount, parsed, bind, Except.bind, absent, if_true, pure, Except.pure]
  have refused : ∀ index,
      image.sectionHeader index = .error (.malformed (.sectionOutOfRange index 0)) := by
    intro index
    exact sectionHeader_of_le empty (Nat.zero_le index)
  have uncounted : header.phnum = 0xffff →
      image.segmentCount = .error (.malformed .noSectionTable) := by
    intro escaped
    simp only [segmentCount, parsed, bind, Except.bind, extended, escaped, if_true, unread]
  constructor
  case sectionCount => exact empty
  case rawSectionHeader => exact unread
  case sectionHeader => exact refused
  case segmentCount => exact uncounted
  case segmentHeader =>
    intro escaped index
    exact segmentHeader_of_uncounted (uncounted escaped) index
  case nameTable =>
    intro escaped
    simp only [nameTable, parsed, bind, Except.bind, extended, escaped, if_true, unread]
  case stringAt =>
    intro table offset
    exact stringAt_of_error (refused table) offset

theorem numbersAt_of_segmentHeader (parsed : image.parsedHeader = .ok header) {index : Nat}
    {entry : SegmentHeader} (read : image.segmentHeader index = .ok entry) :
    Layout.NumbersAt (SegmentHeader.place header.fileClass)
      (if header.fileClass = .bits32 then 32 else 56) header.order image.bytes
      (header.phoff.toNat + index * header.phentsize.toNat) entry.field := by
  rcases exists_count_of_segmentHeader read with ⟨count, counted, below⟩
  have found := (segmentHeader_of_lt parsed counted below).symm.trans read
  have numbers := EntryTable.numbersAt_of_read (SegmentHeader.place?_layout header.fileClass)
    (fun _ => SegmentHeader.field_ofFields) found
  rwa [SegmentHeader.size_layout] at numbers

theorem exists_first_segmentHeader {bytes : Array UInt8} (room : 52 ≤ bytes.size)
    (parsed : (ofBytes bytes).value.parsedHeader = .ok header) (zero : header.phoff = 0)
    {count : Nat} (counted : (ofBytes bytes).value.segmentCount = .ok count)
    (positive : 0 < count) :
    ∃ entry, (ofBytes bytes).value.segmentHeader 0 = .ok entry := by
  have start : header.phoff.toNat + 0 * header.phentsize.toNat = 0 := by
    rw [zero, Nat.zero_mul]
    rfl
  have whole : (SegmentHeader.layout header.fileClass).size ≤ bytes.size :=
    Nat.le_trans (SegmentHeader.size_layout_le _)
      (FileHeader.size_le_of_decode room (decode_of_parsedHeader parsed))
  have decides := segmentHeader_decided parsed 0
  rw [start, bytes_ofBytes, ← SegmentHeader.size_layout] at decides
  rcases decides.held count counted positive (by decide) (by rwa [Nat.zero_add])
    with ⟨entry, read, _⟩
  exact ⟨entry, read⟩

/-- An offset of zero stands for no table where sections are concerned: none is ever decoded, and
what only the first section header tells cannot be told. Where segments are concerned it is an
offset. Unless there are none by the count, a build then reads the file header as the first of
them. -/
theorem zero_offset_hides_sections_only {bytes : Array UInt8}
    (decoded : (ofBytes bytes).value.header = some header) :
    let image := (ofBytes bytes).value
    (header.shoff = 0 → image.WithoutSections header) ∧
      (header.phoff = 0 → ∀ session : Session, session.source = .ok image.source →
        ReadFromStart bytes header image.segmentCount session.build.value.1.table.toList) := by
  intro image
  have parsed : image.parsedHeader = .ok header := parsedHeader_of_some decoded
  have present := (parsedHeader_ofBytes_eq_ok_iff.mp parsed).1
  rcases hasHeader_iff.mp present with ⟨room, begins⟩
  refine ⟨withoutSections parsed, ?_⟩
  intro zero session reads
  have numbers : ∀ index segment, session.build.value.1.table.toList[index]? = some segment →
      ∃ entry, segment = .ofHeader entry ∧
        Layout.NumbersAt (SegmentHeader.place header.fileClass)
          (if header.fileClass = .bits32 then 32 else 56) header.order bytes
          (index * header.phentsize.toNat) entry.field := by
    intro index segment found
    rcases Session.exists_header_of_getElem?_build reads found with ⟨entry, read, made⟩
    have stand := numbersAt_of_segmentHeader parsed read
    rw [zero, bytes_ofBytes] at stand
    exact ⟨entry, made, by simpa using stand⟩
  have nil_iff : session.build.value.1.table.toList = [] ↔
      ∀ count, image.segmentCount = .ok count → count = 0 := by
    apply Session.build_eq_nil_iff reads
    intro count counted positive
    exact exists_first_segmentHeader room parsed zero counted positive
  constructor
  case nil_iff => exact nil_iff
  case direct_nil_iff =>
    intro direct
    rw [nil_iff, segmentCount_of_direct parsed direct]
    simp only [Except.ok.injEq, forall_eq', ← UInt16.toNat_inj]
    rfl
  case numbers => exact numbers
  case code =>
    intro segment found
    rcases numbers 0 segment found with ⟨entry, rfl, stand⟩
    have type := (stand .type).2
    have front : SegmentHeader.place header.fileClass .type = ⟨0, 4⟩ := by
      cases header.fileClass <;> rfl
    rw [front, Nat.zero_mul] at type
    exact UInt32.toNat_inj.mp (type.trans (Identification.numberAt_zero begins header.order))

def unplacedHeader : FileHeader := ⟨.bits32, .little, 2, 3, 1, 0, 0, 0, 0, 52, 32, 1, 0, 0, 0⟩

def unplacedBytes : Array UInt8 := (unplacedHeader.written 1 (List.replicate 9 0)).toArray

theorem zero_offset_hides_sections_only_unplaced :
    let image := (ofBytes unplacedBytes).value
    image.sectionHeader 0 = .error (.malformed (.sectionOutOfRange 0 0)) ∧
      ∃ session segment, Session.ofBytes unplacedBytes = .ok session ∧
        session.build.value.1.table.toList[0]? = some segment ∧ segment.code = 0x464c457f := by
  intro image
  have decoded : image.header = some unplacedHeader := by decide +kernel
  rcases zero_offset_hides_sections_only decoded with ⟨sections, segments⟩
  have opens : ∃ session, Session.ofBytes unplacedBytes = .ok session ∧
      session.source = .ok image.source := ⟨_, rfl, rfl⟩
  rcases opens with ⟨session, opened, reads⟩
  have start := segments rfl session reads
  refine ⟨(sections rfl).sectionHeader 0, session, ?_⟩
  cases found : session.build.value.1.table.toList[0]? with
  | some segment => exact ⟨segment, opened, rfl, start.code segment found⟩
  | none =>
      have short : session.build.value.1.table.toList.length ≤ 0 :=
        List.getElem?_eq_none_iff.mp found
      have empty := start.nil_iff.mp (List.eq_nil_of_length_eq_zero (Nat.le_zero.mp short))
      exact absurd (empty 1 (by decide +kernel)) (by decide)

theorem segments_without_table_offset :
    ¬∀ (bytes : Array UInt8) (header : FileHeader) (session : Session),
      (ofBytes bytes).value.header = some header → header.phoff = 0 →
        session.source = .ok (ofBytes bytes).value.source →
        session.build.value.1.table.toList = [] := by
  intro hides
  have decoded : (ofBytes unplacedBytes).value.header = some unplacedHeader := by decide +kernel
  have opens : ∃ session, Session.ofBytes unplacedBytes = .ok session ∧
      session.source = .ok (ofBytes unplacedBytes).value.source ∧
      session.build.value.1.table.size = 1 := ⟨_, rfl, rfl, rfl⟩
  rcases opens with ⟨session, _, reads, one⟩
  have none_left := congrArg List.length (hides _ _ session decoded rfl reads)
  rw [SegmentTable.length_toList, one] at none_left
  cases none_left

end Image

end ElfTables

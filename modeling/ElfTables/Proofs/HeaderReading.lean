import ElfTables.Proofs.Classification
import ElfTables.Proofs.EntryReads

/-!
One reading of the header. The object type taken by hand, the width that is reported and the
layout of every table come from the same identification bytes. So they agree where a header
decodes, and where none does, all that needs one fails alike (`Image.header_read_once`).
-/
namespace ElfTables

theorem FileClass.ofCode?_eq_some_iff {code : UInt8} {fileClass : FileClass} :
    ofCode? code = some fileClass ↔ fileClass.code = code := by
  constructor
  · intro known
    rw [ofCode?] at known
    split at known
    next narrow =>
      cases known
      exact narrow.symm
    next =>
      split at known
      next wide =>
        cases known
        exact wide.symm
      next => cases known
  · rintro rfl
    exact ofCode?_code fileClass

theorem ByteOrder.ofCode?_eq_some_iff {code : UInt8} {order : ByteOrder} :
    ofCode? code = some order ↔ order.code = code := by
  constructor
  · intro known
    rw [ofCode?] at known
    split at known
    next little =>
      cases known
      exact little.symm
    next =>
      split at known
      next big =>
        cases known
        exact big.symm
      next => cases known
  · rintro rfl
    exact ofCode?_code order

def Identification.context? (bytes : Array UInt8) : Option (FileClass × ByteOrder) :=
  (FileClass.ofCode? (byteAt bytes classIndex)).bind fun fileClass =>
    (ByteOrder.ofCode? (byteAt bytes orderIndex)).map fun order => (fileClass, order)

namespace FileHeader

variable {bytes : Array UInt8} {header : FileHeader}

theorem decode_eq_ok_iff :
    decode bytes = .ok header ↔
      ∃ fileClass order values, fileClass.code = byteAt bytes 4 ∧ order.code = byteAt bytes 5 ∧
        (layout fileClass).read order bytes Identification.size = .ok values ∧
        header = ofFields fileClass order values := by
  constructor
  · intro decoded
    rw [decode] at decoded
    split at decoded
    next => cases decoded
    next fileClass classKnown =>
      split at decoded
      next => cases decoded
      next order orderKnown =>
        split at decoded
        next => cases decoded
        next values record =>
          cases decoded
          exact ⟨fileClass, order, values, FileClass.ofCode?_eq_some_iff.mp classKnown,
            ByteOrder.ofCode?_eq_some_iff.mp orderKnown, record, rfl⟩
  · rintro ⟨fileClass, order, values, classCode, orderCode, record, rfl⟩
    have classKnown := FileClass.ofCode?_eq_some_iff.mpr classCode
    have orderKnown := ByteOrder.ofCode?_eq_some_iff.mpr orderCode
    simp only [decode, Identification.classIndex, Identification.orderIndex, classKnown,
      orderKnown, record]

theorem exists_decode_iff (room : 52 ≤ bytes.size) :
    (∃ header, decode bytes = .ok header) ↔
      (byteAt bytes 4 = 1 ∨ byteAt bytes 4 = 2) ∧ (byteAt bytes 5 = 1 ∨ byteAt bytes 5 = 2) ∧
        (byteAt bytes 4 = 1 ∨ 64 ≤ bytes.size) := by
  have behind : Identification.size ≤ bytes.size := Nat.le_trans (by decide) room
  constructor
  · rintro ⟨header, decoded⟩
    obtain ⟨fileClass, order, values, classCode, orderCode, record, _⟩ :=
      decode_eq_ok_iff.mp decoded
    have whole := (Layout.isOk_read_iff order bytes (layout fileClass) behind).mp ⟨values, record⟩
    rw [← classCode, ← orderCode]
    refine ⟨?_, ?_, ?_⟩
    · cases fileClass <;> decide
    · cases order <;> decide
    · cases fileClass with
      | bits32 => exact Or.inl rfl
      | bits64 => exact Or.inr whole
  · rintro ⟨classKnown, orderKnown, whole⟩
    have exists_class : ∃ fileClass : FileClass,
        fileClass.code = byteAt bytes 4 ∧ size fileClass ≤ bytes.size := by
      rcases classKnown with narrow | wide
      · exact ⟨.bits32, narrow.symm, room⟩
      · rcases whole with narrow | long
        · exact ⟨.bits32, narrow.symm, room⟩
        · exact ⟨.bits64, wide.symm, long⟩
    have exists_order : ∃ order : ByteOrder, order.code = byteAt bytes 5 := by
      rcases orderKnown with little | big
      · exact ⟨.little, little.symm⟩
      · exact ⟨.big, big.symm⟩
    obtain ⟨fileClass, classCode, long⟩ := exists_class
    obtain ⟨order, orderCode⟩ := exists_order
    obtain ⟨values, record⟩ :=
      (Layout.isOk_read_iff order bytes (layout fileClass) behind).mpr long
    exact ⟨_, decode_eq_ok_iff.mpr ⟨fileClass, order, values, classCode, orderCode, record, rfl⟩⟩

theorem context?_of_decode (decoded : decode bytes = .ok header) :
    Identification.context? bytes = some (header.fileClass, header.order) := by
  obtain ⟨fileClass, order, values, classCode, orderCode, _, rfl⟩ := decode_eq_ok_iff.mp decoded
  have classKnown := FileClass.ofCode?_eq_some_iff.mpr classCode
  have orderKnown := ByteOrder.ofCode?_eq_some_iff.mpr orderCode
  simp only [Identification.context?, Identification.classIndex, Identification.orderIndex,
    classKnown, orderKnown, Option.bind_some, Option.map_some]
  rfl

theorem rawType_of_decode (decoded : decode bytes = .ok header) :
    Image.rawType bytes = header.type := by
  obtain ⟨fileClass, order, values, _, orderCode, record, rfl⟩ := decode_eq_ok_iff.mp decoded
  have orderKnown := ByteOrder.ofCode?_eq_some_iff.mpr orderCode
  have placed : (layout fileClass).place? .type = some ⟨0, 2⟩ := rfl
  have stored : values .type = order.numberAt bytes Identification.size 2 :=
    Layout.read_eq_numberAt record placed
  calc
    _ = (order.numberAt bytes Identification.size 2).toUInt16 := by
      rw [Image.rawType, Identification.orderIndex, orderKnown]
      rfl
    _ = (values .type).toUInt16 := by rw [stored]

end FileHeader

def FailsAs {α : Type} (text : String) (result : Except ReadError α) : Prop :=
  ∃ cause, result = .error (.malformed cause) ∧ cause.message = text

namespace Image

/-- The header is what the identification bytes say: its class and its byte order are those of
bytes 4 and 5, looking them up again does not fail, its type is the one taken by hand, and the
width and every read of an entry are of that class and that order. -/
structure ReadsAs (image : Image) (header : FileHeader) : Prop where
  class_code : header.fileClass.code = byteAt image.bytes 4
  order_code : header.order.code = byteAt image.bytes 5
  parsed : image.parsedHeader = .ok header
  context : Identification.context? image.bytes = some (header.fileClass, header.order)
  type_eq : image.type = some header.type
  width_eq : ∀ width, image.width = .ok width → width = header.fileClass.addressWidth
  segments : ∀ count index, image.segmentCount = .ok count → index < count →
    image.segmentHeader index = ((EntryTable.mk header.phoff header.phentsize).read
      (SegmentHeader.layout header.fileClass) header.order image.bytes index).map
        SegmentHeader.ofFields
  sections : ∀ count index, image.sectionCount = .ok count → index < count →
    image.sectionHeader index = ((EntryTable.mk header.shoff header.shentsize).read
      (SectionHeader.layout header.fileClass) header.order image.bytes index).map
        SectionHeader.ofFields
  /-- Also where a count or an index stands in the first section header. -/
  uncounted_sections : header.shoff ≠ 0 → ∀ index,
    image.rawSectionHeader index = ((EntryTable.mk header.shoff header.shentsize).read
      (SectionHeader.layout header.fileClass) header.order image.bytes index).map
        SectionHeader.ofFields

/-- All that needs a header fails with this text, whatever it is asked for. -/
structure Refuses (image : Image) (text : String) : Prop where
  segmentCount : FailsAs text image.segmentCount
  segmentHeader : ∀ index, FailsAs text (image.segmentHeader index)
  sectionCount : FailsAs text image.sectionCount
  sectionHeader : ∀ index, FailsAs text (image.sectionHeader index)
  nameTable : FailsAs text image.nameTable
  stringAt : ∀ table offset, FailsAs text (image.stringAt table offset)

/-- What is told without a header, from single bytes. -/
structure AnswersFromBytes (image : Image) (bytes : Array UInt8) : Prop where
  kind_iff : image.kind = .elf ↔
    storedType bytes = 1 ∨ storedType bytes = 2 ∨ storedType bytes = 3
  ident_eq : image.ident = some (bytes.toList.take 16)
  width_eq : image.width =
    if byteAt bytes 6 = 1 then
      if byteAt bytes 4 = 1 then .ok .bits32
      else if byteAt bytes 4 = 2 then .ok .bits64
      else .error (.malformed (.unknownClass (byteAt bytes 4)))
    else .error (.malformed (.unsupportedVersion (byteAt bytes 6)))

variable {bytes : Array UInt8} {header : FileHeader}

theorem header_eq_some_iff (present : hasHeader bytes = true) :
    (ofBytes bytes).value.header = some header ↔ FileHeader.decode bytes = .ok header := by
  rw [value_ofBytes, if_pos present]
  cases FileHeader.decode bytes with
  | ok found => simp only [Except.toOption, Option.some.injEq, Except.ok.injEq]
  | error cause => simp only [Except.toOption, reduceCtorEq]

theorem readsAs_of_decode (present : hasHeader bytes = true)
    (decoded : FileHeader.decode bytes = .ok header) :
    (ofBytes bytes).value.ReadsAs header := by
  have same := bytes_ofBytes bytes
  have parsed := parsedHeader_of_some ((header_eq_some_iff present).mpr decoded)
  obtain ⟨fileClass, order, values, classCode, orderCode, _, rfl⟩ :=
    FileHeader.decode_eq_ok_iff.mp decoded
  constructor
  case class_code => exact same.symm ▸ classCode
  case order_code => exact same.symm ▸ orderCode
  case parsed => exact parsed
  case context => exact same.symm ▸ FileHeader.context?_of_decode decoded
  case type_eq => rw [type_of_hasHeader present, FileHeader.rawType_of_decode decoded]
  case width_eq =>
    intro width told
    rw [width_of_hasHeader present, ← classCode] at told
    split at told
    next => cases fileClass <;> cases told <;> rfl
    next => cases told
  case segments =>
    intro count index counted below
    exact segmentHeader_of_lt parsed counted below
  case sections =>
    intro count index counted below
    exact sectionHeader_of_lt parsed counted below
  case uncounted_sections =>
    intro present index
    exact rawSectionHeader_of_present parsed present index

theorem refuses_of_header_eq_none {image : Image} (absent : image.header = none) :
    image.Refuses "no ELF header" := by
  have unparsed : image.parsedHeader = .error (.malformed .noHeader) := by
    rw [parsedHeader, absent]
  have uncounted : image.sectionCount = .error (.malformed .noHeader) := by
    simp only [sectionCount, unparsed, bind, Except.bind]
  have unread : ∀ index, image.sectionHeader index = .error (.malformed .noHeader) :=
    sectionHeader_of_uncounted uncounted
  have unsized : image.segmentCount = .error (.malformed .noHeader) := by
    simp only [segmentCount, unparsed, bind, Except.bind]
  constructor
  case segmentCount => exact ⟨_, unsized, rfl⟩
  case segmentHeader =>
    intro index
    exact ⟨_, segmentHeader_of_uncounted unsized index, rfl⟩
  case sectionCount => exact ⟨_, uncounted, rfl⟩
  case sectionHeader =>
    intro index
    exact ⟨_, unread index, rfl⟩
  case nameTable =>
    refine ⟨.noHeader, ?_, rfl⟩
    simp only [nameTable, unparsed, bind, Except.bind]
  case stringAt =>
    intro table offset
    exact ⟨_, stringAt_of_error (unread table) offset, rfl⟩

theorem answersFromBytes (present : hasHeader bytes = true) :
    (ofBytes bytes).value.AnswersFromBytes bytes := by
  obtain ⟨room, magic⟩ := hasHeader_iff.mp present
  refine ⟨?_, ident_of_hasHeader present, width_of_hasHeader present⟩
  rw [kind_ofBytes]
  exact ⟨HoldsObject.type_known, fun known => ⟨room, magic, known⟩⟩

/-- Bytes that begin like an object have a header just where bytes 4 and 5 name a class and a byte
order and the header of that class is all there. It is then read as those bytes say, everywhere;
without one, all that needs it fails alike. What is told from single bytes does not depend on
it. -/
theorem header_read_once (magic : [0x7f, 0x45, 0x4c, 0x46] <+: bytes.toList)
    (room : 52 ≤ bytes.size) :
    let image := (ofBytes bytes).value
    ((∃ header, image.header = some header) ↔
      (byteAt bytes 4 = 1 ∨ byteAt bytes 4 = 2) ∧ (byteAt bytes 5 = 1 ∨ byteAt bytes 5 = 2) ∧
        (byteAt bytes 4 = 1 ∨ 64 ≤ bytes.size)) ∧
    (∀ header, image.header = some header → image.ReadsAs header) ∧
    (image.header = none → image.Refuses "no ELF header") ∧
    image.AnswersFromBytes bytes := by
  intro image
  have present : hasHeader bytes = true := hasHeader_iff.mpr ⟨room, magic⟩
  refine ⟨?decodes, ?reads, refuses_of_header_eq_none, answersFromBytes present⟩
  case decodes =>
    rw [← FileHeader.exists_decode_iff room]
    exact exists_congr fun header => header_eq_some_iff present
  case reads =>
    intro header found
    exact readsAs_of_decode present ((header_eq_some_iff present).mp found)

theorem header_read_once_short :
    (∃ header, (ofBytes edgeBytes).value.header = some header ∧
      (ofBytes edgeBytes).value.ReadsAs header ∧ header.fileClass = .bits64) ∧
    let image := (ofBytes shortHandle.content).value
    image.header = none ∧ image.kind = .elf ∧ image.width = .ok .bits64 ∧
      ∀ table offset, FailsAs "no ELF header" (image.stringAt table offset) := by
  obtain ⟨decodes, reads, _, _⟩ :=
    header_read_once (show [0x7f, 0x45, 0x4c, 0x46] <+: edgeBytes.toList by decide) (by decide)
  obtain ⟨undecoded, _, refuses, answers⟩ :=
    header_read_once (show [0x7f, 0x45, 0x4c, 0x46] <+: shortHandle.content.toList by decide)
      (by decide)
  have absent : (ofBytes shortHandle.content).value.header = none := by
    rw [Option.eq_none_iff_forall_ne_some]
    intro header found
    exact absurd (undecoded.mp ⟨header, found⟩) (by decide)
  refine ⟨?_, absent, answers.kind_iff.mpr (by decide), answers.width_eq,
    (refuses absent).stringAt⟩
  obtain ⟨header, found⟩ := decodes.mpr (by decide +kernel)
  have code := (reads header found).class_code
  refine ⟨header, found, reads header found, ?_⟩
  cases named : header.fileClass with
  | bits64 => rfl
  | bits32 =>
      rw [named] at code
      exact absurd code (by decide +kernel)

end Image

end ElfTables

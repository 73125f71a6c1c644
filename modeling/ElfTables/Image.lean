import ElfTables.Bytes.Terminated
import ElfTables.File.EntryTable
import ElfTables.File.Header
import ElfTables.Log
import ElfTables.Source
import ElfTables.Text.Utf8

/-!
Objects held in memory. The kind, the class and the identification bytes come from the raw bytes;
counts, entries and names need a header that decodes.
-/
namespace ElfTables

structure Image where
  bytes : Array UInt8
  /-- The object type, present when the bytes have the magic and room for a header. -/
  type : Option UInt16
  header : Option FileHeader
  deriving DecidableEq, Repr

namespace Image

def objectTypes : List UInt16 := [1, 2, 3]

/-- A header count or index of `0xffff` stands in section 0 instead. -/
def extended : UInt16 := 0xffff

def hasHeader (bytes : Array UInt8) : Bool :=
  (bytes.extract 0 Identification.magic.length).toList == Identification.magic &&
    FileHeader.minimumSize ≤ bytes.size

/-- The object type lies right behind the identification bytes in both classes. A byte-order code
that means nothing counts as little here. -/
def rawType (bytes : Array UInt8) : UInt16 :=
  let order := (ByteOrder.ofCode? (byteAt bytes Identification.orderIndex)).getD .little
  (order.decode (bytes.extract Identification.size (Identification.size + 2)).toList).toUInt16

def ofBytes (bytes : Array UInt8) : Logged Image :=
  if hasHeader bytes then
    match FileHeader.decode bytes with
    | .ok header => pure ⟨bytes, some (rawType bytes), some header⟩
    | .error cause => do
      Logged.log .warn s!"ELF header can't be decoded: {cause.message}"
      pure ⟨bytes, some (rawType bytes), none⟩
  else do
    Logged.log .debug "No ELF header present"
    pure ⟨bytes, none, none⟩

def kind (image : Image) : ObjectKind :=
  match image.type with
  | some type => if objectTypes.contains type then .elf else .other
  | none => .other

def ident (image : Image) : Option (List UInt8) :=
  image.type.map fun _ => (image.bytes.extract 0 Identification.size).toList

/-- The version byte is looked at before the class byte. -/
def width (image : Image) : Except ReadError AddressWidth :=
  match image.type with
  | none => .error (.malformed .noHeader)
  | some _ =>
    let version := byteAt image.bytes Identification.versionIndex
    let classCode := byteAt image.bytes Identification.classIndex
    if version = Identification.currentVersion then
      match FileClass.ofCode? classCode with
      | some fileClass => .ok fileClass.addressWidth
      | none => .error (.malformed (.unknownClass classCode))
    else
      .error (.malformed (.unsupportedVersion version))

def parsedHeader (image : Image) : Except ReadError FileHeader :=
  match image.header with
  | some header => .ok header
  | none => .error (.malformed .noHeader)

def rawSectionHeader (image : Image) (index : Nat) : Except ReadError SectionHeader := do
  let header ← image.parsedHeader
  if header.shoff = 0 then
    .error (.malformed .noSectionTable)
  else
    let value ← (EntryTable.mk header.shoff header.shentsize).read
      (SectionHeader.layout header.fileClass) header.order image.bytes index
    pure (SectionHeader.ofFields value)

def segmentCount (image : Image) : Except ReadError Nat := do
  let header ← image.parsedHeader
  if header.phnum = extended then
    let first ← image.rawSectionHeader 0
    pure first.info.toNat
  else
    pure header.phnum.toNat

def segmentHeader (image : Image) (index : Nat) : Except ReadError SegmentHeader := do
  let count ← image.segmentCount
  if count ≤ index then
    .error (.malformed (.segmentOutOfRange index count))
  else
    let header ← image.parsedHeader
    let value ← (EntryTable.mk header.phoff header.phentsize).read
      (SegmentHeader.layout header.fileClass) header.order image.bytes index
    pure (SegmentHeader.ofFields value)

def sectionCount (image : Image) : Except ReadError Nat := do
  let header ← image.parsedHeader
  if header.shoff = 0 then
    pure 0
  else if header.shnum = 0 then
    let first ← image.rawSectionHeader 0
    pure first.size.toNat
  else
    pure header.shnum.toNat

def sectionHeader (image : Image) (index : Nat) : Except ReadError SectionHeader := do
  let count ← image.sectionCount
  if count ≤ index then
    .error (.malformed (.sectionOutOfRange index count))
  else
    image.rawSectionHeader index

def nameTable (image : Image) : Except ReadError Nat := do
  let header ← image.parsedHeader
  if header.shstrndx = extended then
    let first ← image.rawSectionHeader 0
    pure first.link.toNat
  else
    pure header.shstrndx.toNat

def nameBytes? (image : Image) (table : SectionHeader) (offset : Nat) : Option (List UInt8) :=
  terminated? image.bytes (table.offset.toNat + offset) (table.size.toNat - offset)

def stringAt (image : Image) (table offset : Nat) : Except ReadError String := do
  let header ← image.sectionHeader table
  if header.type = SectionHeader.stringTable then
    match image.nameBytes? header offset with
    | some name => .ok (Utf8.decode name)
    | none => .error (.malformed (.noString offset table))
  else
    .error (.malformed (.notStringTable table))

def source (image : Image) : Source where
  setup := .ok ()
  kind := image.kind
  width := image.width
  ident := image.ident
  segmentCount := image.segmentCount
  segmentHeader := image.segmentHeader
  sectionCount := image.sectionCount
  sectionHeader := image.sectionHeader
  nameTable := image.nameTable
  stringAt := image.stringAt

end Image

end ElfTables

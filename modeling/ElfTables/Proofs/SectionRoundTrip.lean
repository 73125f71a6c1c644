import ElfTables.Proofs.SectionWalks
import ElfTables.Proofs.StoredNames
import ElfTables.Proofs.StoredObjects

namespace ElfTables

structure NamedSection where
  name : String
  header : SectionHeader
  deriving DecidableEq, Repr

def NamedSection.described (entry : NamedSection) : Section where
  name := entry.name
  fileOffset := entry.header.offset
  vaddr := entry.header.addr
  size := entry.header.size

def withNameTable (sections : List NamedSection) (names : SectionHeader) : List NamedSection :=
  sections ++ [⟨".shstrtab", names⟩]

/-- The count stands in the header, or in section 0 when the header holds zero. -/
def StoresSectionCount (header : FileHeader) (null : SectionHeader) (count : Nat) : Prop :=
  (count ≤ 0xffff ∧ header.shnum.toNat = count) ∨
    (header.shnum = 0 ∧ null.size.toNat = count)

def StoresNameTable (header : FileHeader) (null : SectionHeader) (index : Nat) : Prop :=
  (index < 0xffff ∧ header.shstrndx.toNat = index) ∨
    (header.shstrndx = 0xffff ∧ null.link.toNat = index)

/-- An object whose section table holds `null`, the given sections and last the table of their
names, `names`, whose bytes are `contents`. -/
structure StoresSections (header : FileHeader) (null : SectionHeader)
    (sections : List NamedSection) (names : SectionHeader) (contents : List UInt8)
    (bytes : Array UInt8) : Prop extends StoresObject header bytes where
  table_present : header.shoff ≠ 0
  count_stored : StoresSectionCount header null (sections.length + 2)
  name_table_stored : StoresNameTable header null (sections.length + 1)
  null_fits : null.Fits header.fileClass
  null_stored : StoredAt bytes header.shoff.toNat (null.written header.order header.fileClass)
  entries_fit : ∀ entry ∈ withNameTable sections names, entry.header.Fits header.fileClass
  entries_stored : ∀ index (inside : index < (withNameTable sections names).length),
    StoredAt bytes (header.shoff.toNat + (index + 1) * header.shentsize.toNat)
      ((withNameTable sections names)[index].header.written header.order header.fileClass)
  names_typed : names.type = 3
  contents_sized : names.size.toNat = contents.length
  contents_stored : StoredAt bytes names.offset.toNat contents
  named : ∀ entry ∈ withNameTable sections names,
    '\x00' ∉ entry.name.toList ∧ HoldsName contents entry.header.name.toNat entry.name

namespace StoresSections

variable {header : FileHeader} {null names : SectionHeader} {sections : List NamedSection}
  {contents : List UInt8} {bytes : Array UInt8}

theorem null_eq (stored : StoresSections header null sections names contents bytes) :
    (Image.withHeader header bytes).rawSectionHeader 0 = .ok null := by
  apply Image.rawSectionHeader_of_storedAt rfl stored.size_le stored.table_present stored.null_fits
  rw [Nat.zero_mul, Nat.add_zero]
  exact stored.null_stored

theorem sectionCount_eq (stored : StoresSections header null sections names contents bytes) :
    (Image.withHeader header bytes).sectionCount = .ok (sections.length + 2) := by
  have present : (Image.withHeader header bytes).parsedHeader = .ok header := rfl
  rcases stored.count_stored with ⟨small, direct⟩ | ⟨escaped, held⟩
  · have plain : header.shnum ≠ 0 := by
      intro zero
      rw [zero] at direct
      exact absurd direct.symm (Nat.succ_ne_zero _)
    simp only [Image.sectionCount, present, bind, Except.bind, stored.table_present, plain,
      if_false, pure, Except.pure, direct]
  · simp only [Image.sectionCount, present, bind, Except.bind, stored.table_present, escaped,
      if_false, if_true, stored.null_eq, pure, Except.pure, held]

theorem nameTable_eq (stored : StoresSections header null sections names contents bytes) :
    (Image.withHeader header bytes).nameTable = .ok (sections.length + 1) := by
  have present : (Image.withHeader header bytes).parsedHeader = .ok header := rfl
  rcases stored.name_table_stored with ⟨small, direct⟩ | ⟨escaped, held⟩
  · have plain : header.shstrndx ≠ Image.extended := by
      intro escaped
      rw [escaped] at direct
      exact absurd direct.symm (Nat.ne_of_lt small)
    simp only [Image.nameTable, present, bind, Except.bind, plain, if_false, pure, Except.pure,
      direct]
  · have marked : header.shstrndx = Image.extended := escaped
    simp only [Image.nameTable, present, bind, Except.bind, marked, if_true, stored.null_eq, pure,
      Except.pure, held]

theorem sectionHeader_eq (stored : StoresSections header null sections names contents bytes)
    {index : Nat} (inside : index < (withNameTable sections names).length) :
    (Image.withHeader header bytes).sectionHeader (index + 1) =
      .ok (withNameTable sections names)[index].header := by
  have counted : index + 1 < sections.length + 2 := by
    rw [withNameTable, List.length_append, List.length_singleton] at inside
    omega
  apply Image.sectionHeader_of_storedAt rfl stored.size_le stored.table_present
    stored.sectionCount_eq counted
  · exact stored.entries_fit _ (List.getElem_mem inside)
  · exact stored.entries_stored index inside

theorem stringAt_eq (stored : StoresSections header null sections names contents bytes)
    {entry : NamedSection} (member : entry ∈ withNameTable sections names) :
    (Image.withHeader header bytes).stringAt (sections.length + 1) entry.header.name.toNat =
      .ok entry.name := by
  have last : (Image.withHeader header bytes).sectionHeader (sections.length + 1) = .ok names := by
    have inside : sections.length < (withNameTable sections names).length := by
      rw [withNameTable, List.length_append, List.length_singleton]
      omega
    rw [stored.sectionHeader_eq inside]
    simp only [withNameTable, List.getElem_concat_length]
  obtain ⟨free, held⟩ := stored.named entry member
  exact Image.stringAt_of_stored last stored.names_typed stored.contents_sized
    stored.contents_stored free held

theorem sectionAt_eq (stored : StoresSections header null sections names contents bytes)
    {index : Nat} (inside : index < (withNameTable sections names).length) :
    SectionWalk.sectionAt (Image.withHeader header bytes).source (sections.length + 1)
        (1 + index) = .ok (withNameTable sections names)[index].described := by
  rw [Nat.add_comm 1 index]
  have entry : (Image.withHeader header bytes).source.sectionHeader (index + 1) =
      .ok (withNameTable sections names)[index].header := stored.sectionHeader_eq inside
  have name : (Image.withHeader header bytes).source.stringAt (sections.length + 1)
      (withNameTable sections names)[index].header.name.toNat =
        .ok (withNameTable sections names)[index].name :=
    stored.stringAt_eq (List.getElem_mem inside)
  simp only [SectionWalk.sectionAt, entry, name, NamedSection.described]

theorem toList_walk (stored : StoresSections header null sections names contents bytes) :
    SectionWalk.toList ⟨(Image.withHeader header bytes).source, sections.length + 1, 1,
        sections.length + 2⟩ =
      ((withNameTable sections names).map NamedSection.described).map Except.ok := by
  apply SectionWalk.toList_of_sections
  · rw [List.length_map, withNameTable, List.length_append, List.length_singleton]
    change sections.length + 2 = 1 + (sections.length + 1)
    omega
  · intro index inside
    rw [List.length_map] at inside
    rw [List.getElem_map]
    exact stored.sectionAt_eq inside

end StoresSections

/-- What was stored is what a walk finds, names and table order included. -/
theorem sections_of_storesSections {handle : Handle} (healthy : handle.Healthy)
    {header : FileHeader} {null names : SectionHeader} {sections : List NamedSection}
    {contents : List UInt8}
    (stored : StoresSections header null sections names contents handle.content) :
    ∃ session walk, (Session.ofHandle handle).value = .ok session ∧
      session.sections = .ok walk ∧
      walk.toList = ((withNameTable sections names).map fun entry =>
        { name := entry.name, fileOffset := entry.header.offset, vaddr := entry.header.addr,
          size := entry.header.size : Section }).map Except.ok := by
  refine ⟨_, _, stored.ofHandle_eq healthy, ?_, stored.toList_walk⟩
  have named : (Image.withHeader header handle.content).source.nameTable =
      .ok (sections.length + 1) := stored.nameTable_eq
  have counted : (Image.withHeader header handle.content).source.sectionCount =
      .ok (sections.length + 2) := stored.sectionCount_eq
  simp only [Session.sections, Session.source, bind, Except.bind, SectionWalk.start, named, counted]

def escapedHeader : FileHeader where
  fileClass := .bits64
  order := .little
  type := 1
  machine := 62
  version := 1
  entry := 0
  phoff := 0
  shoff := 90
  flags := 0
  ehsize := 64
  phentsize := 0
  phnum := 0
  shentsize := 64
  shnum := 0
  shstrndx := 0xffff

def escapedNull : SectionHeader where
  name := 0
  type := 0
  flags := 0
  addr := 0
  offset := 0
  size := 5
  link := 4
  info := 0
  addralign := 0
  entsize := 0

def escapedSections : List NamedSection :=
  [⟨".text", ⟨1, 1, 6, 0xffffffffffffffff, 0x40, 0x10, 0, 0, 16, 0⟩⟩,
    ⟨"données", ⟨7, 8, 3, 0x1000, 0x8000000000000000, 0xffff, 0, 0, 1, 0⟩⟩,
    ⟨"", ⟨0, 3, 0, 0, 0, 0, 0, 0, 1, 0⟩⟩]

def escapedNames : SectionHeader where
  name := 16
  type := 3
  flags := 0
  addr := 0
  offset := 64
  size := 26
  link := 0
  info := 0
  addralign := 1
  entsize := 0

def escapedContents : List UInt8 := Utf8.encode "\x00.text\x00données\x00.shstrtab\x00"

def escapedHandle : Handle where
  content := (escapedHeader.written 9 (List.replicate 9 0) ++ escapedContents ++
    escapedNull.written .little .bits64 ++
    (withNameTable escapedSections escapedNames).flatMap fun (entry : NamedSection) =>
      entry.header.written .little .bits64).toArray

theorem storesSections_escaped :
    StoresSections escapedHeader escapedNull escapedSections escapedNames escapedContents
      escapedHandle.content where
  type_known := by decide
  header_stored := ⟨9, List.replicate 9 0, rfl, by decide +kernel⟩
  header_fits := by decide +kernel
  addressable := by decide +kernel
  table_present := by decide
  count_stored := Or.inr ⟨rfl, by decide +kernel⟩
  name_table_stored := Or.inr ⟨rfl, by decide +kernel⟩
  null_fits := by decide +kernel
  null_stored := by decide +kernel
  entries_fit := by decide +kernel
  entries_stored := by decide +kernel
  names_typed := rfl
  contents_sized := by decide +kernel
  contents_stored := by decide +kernel
  named := by decide +kernel

theorem sections_of_storesSections_escaped :
    escapedHandle.Healthy ∧
      StoresSections escapedHeader escapedNull escapedSections escapedNames escapedContents
        escapedHandle.content ∧
      ∃ session walk, (Session.ofHandle escapedHandle).value = .ok session ∧
        session.sections = .ok walk ∧
        walk.toList =
          [.ok ⟨".text", 0x40, 0xffffffffffffffff, 0x10⟩,
            .ok ⟨"données", 0x8000000000000000, 0x1000, 0xffff⟩, .ok ⟨"", 0, 0, 0⟩,
            .ok ⟨".shstrtab", 64, 0, 26⟩] := by
  have healthy : escapedHandle.Healthy := ⟨rfl, rfl, by decide⟩
  exact ⟨healthy, storesSections_escaped, sections_of_storesSections healthy storesSections_escaped⟩

end ElfTables

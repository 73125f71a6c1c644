import ElfTables.Proofs.SegmentLoads
import ElfTables.Proofs.StoredObjects

namespace ElfTables

/-- The count stands in the header, or in section 0 when the header holds `0xffff`. -/
def StoresSegmentCount (header : FileHeader) (count : Nat) (bytes : Array UInt8) : Prop :=
  (count < 0xffff ∧ header.phnum.toNat = count) ∨
    (header.phnum = 0xffff ∧ header.shoff ≠ 0 ∧
      ∃ first : SectionHeader, first.info.toNat = count ∧ first.Fits header.fileClass ∧
        StoredAt bytes header.shoff.toNat (first.written header.order header.fileClass))

/-- An object with this segment table. Bytes outside its entries are free, those between two of
them included. -/
structure StoresSegments (header : FileHeader) (segments : List SegmentHeader)
    (bytes : Array UInt8) : Prop extends StoresObject header bytes where
  count_stored : StoresSegmentCount header segments.length bytes
  entries_fit : ∀ segment ∈ segments, segment.Fits header.fileClass
  entries_stored : ∀ index (inside : index < segments.length),
    StoredAt bytes (header.phoff.toNat + index * header.phentsize.toNat)
      (segments[index].written header.order header.fileClass)

theorem StoresObject.segmentCount_eq {header : FileHeader} {bytes : Array UInt8}
    (object : StoresObject header bytes) {count : Nat}
    (stored : StoresSegmentCount header count bytes) :
    (Image.withHeader header bytes).segmentCount = .ok count := by
  rcases stored with ⟨small, direct⟩ | ⟨escaped, present, first, held, fits, stored⟩
  · have plain : header.phnum ≠ Image.extended := by
      intro escaped
      rw [escaped] at direct
      exact absurd direct.symm (Nat.ne_of_lt small)
    rw [Image.segmentCount_of_direct rfl plain, direct]
  · have entry : (Image.withHeader header bytes).rawSectionHeader 0 = .ok first := by
      apply Image.rawSectionHeader_of_storedAt rfl object.size_le present fits
      rwa [Nat.zero_mul, Nat.add_zero]
    have marked : header.phnum = Image.extended := escaped
    simp only [Image.segmentCount, entry, bind, Except.bind, pure, Except.pure, held]
    simp only [Image.parsedHeader, Image.withHeader, marked, if_true]

theorem StoresSegments.reads {header : FileHeader} {segments : List SegmentHeader}
    {bytes : Array UInt8} (stored : StoresSegments header segments bytes) :
    (Image.withHeader header bytes).source.Reads 0 segments := by
  intro index inside
  rw [Nat.zero_add]
  apply Image.segmentHeader_of_storedAt rfl stored.size_le
    (stored.segmentCount_eq stored.count_stored) inside
  · exact stored.entries_fit _ (List.getElem_mem inside)
  · exact stored.entries_stored index inside

/-- What was stored is what a build gives, field by field and in table order. -/
theorem build_of_storesSegments {handle : Handle} (healthy : handle.Healthy)
    {header : FileHeader} {segments : List SegmentHeader}
    (stored : StoresSegments header segments handle.content) :
    ∃ session, (Session.ofHandle handle).value = .ok session ∧ session.isElf = true ∧
      session.build.value.2 = .ok () ∧
      session.build.value.1.table.toList = segments.map fun segment =>
        { code := segment.type, flags := ⟨segment.flags⟩, fileOffset := segment.offset,
          vaddr := segment.vaddr, fileSize := segment.filesz, memorySize := segment.memsz } := by
  have counted := stored.segmentCount_eq stored.count_stored
  obtain ⟨kept, succeeds⟩ := SegmentTable.empty.load_of_reads counted stored.reads
  refine ⟨_, stored.ofHandle_eq healthy, rfl, ?_, ?_⟩
  · rw [Session.value_build_elf, succeeds]
    rfl
  · rw [SegmentTable.toList_empty, List.nil_append] at kept
    rw [Session.value_build_elf]
    exact kept

def spacedHeader : FileHeader where
  fileClass := .bits32
  order := .big
  type := 3
  machine := 8
  version := 1
  entry := 0x400100
  phoff := 92
  shoff := 52
  flags := 0
  ehsize := 52
  phentsize := 36
  phnum := 0xffff
  shentsize := 40
  shnum := 1
  shstrndx := 0

def spacedFirst : SectionHeader where
  name := 0
  type := 0
  flags := 0
  addr := 0
  offset := 0
  size := 0
  link := 0
  info := 2
  addralign := 0
  entsize := 0

def spacedSegments : List SegmentHeader :=
  [⟨1, 5, 0xffffffff, 0x80000000, 0, 0x1234, 0x4321, 0x1000⟩,
    ⟨0x6474e551, 0xffffffff, 0, 0, 0, 0, 0, 16⟩]

def spacedHandle : Handle where
  content := (spacedHeader.written 0 (List.replicate 9 0xaa) ++ spacedFirst.written .big .bits32 ++
    spacedSegments.flatMap fun (segment : SegmentHeader) =>
      segment.written .big .bits32 ++ [0xde, 0xad, 0xbe, 0xef]).toArray
  position := 7
  pieceLimit := some 5

theorem storesSegments_spaced :
    StoresSegments spacedHeader spacedSegments spacedHandle.content where
  type_known := by decide
  header_stored := ⟨0, List.replicate 9 0xaa, rfl, by decide +kernel⟩
  header_fits := by decide +kernel
  addressable := by decide +kernel
  count_stored := Or.inr ⟨rfl, by decide, spacedFirst, by decide +kernel, by decide +kernel,
    by decide +kernel⟩
  entries_fit := by decide +kernel
  entries_stored := by decide +kernel

theorem build_of_storesSegments_spaced :
    spacedHandle.Healthy ∧ StoresSegments spacedHeader spacedSegments spacedHandle.content ∧
      ∃ session, (Session.ofHandle spacedHandle).value = .ok session ∧ session.isElf = true ∧
        session.build.value.2 = .ok () ∧
        session.build.value.1.table.toList =
          [⟨1, ⟨5⟩, 0xffffffff, 0x80000000, 0x1234, 0x4321⟩,
            ⟨0x6474e551, ⟨0xffffffff⟩, 0, 0, 0, 0⟩] := by
  have healthy : spacedHandle.Healthy := ⟨rfl, rfl, by decide⟩
  exact ⟨healthy, storesSegments_spaced, build_of_storesSegments healthy storesSegments_spaced⟩

end ElfTables

import ElfTables.Proofs.HeaderReading
import ElfTables.Proofs.PrintedAddresses
import ElfTables.Proofs.PrintedListings
import ElfTables.Proofs.SectionScans

namespace ElfTables

structure Segment.IsNarrow (segment : Segment) : Prop where
  fileOffset_lt : segment.fileOffset.toNat < 2 ^ 32
  vaddr_lt : segment.vaddr.toNat < 2 ^ 32
  fileSize_lt : segment.fileSize.toNat < 2 ^ 32
  memorySize_lt : segment.memorySize.toNat < 2 ^ 32

structure Section.IsNarrow (entry : Section) : Prop where
  fileOffset_lt : entry.fileOffset.toNat < 2 ^ 32
  vaddr_lt : entry.vaddr.toNat < 2 ^ 32
  size_lt : entry.size.toNat < 2 ^ 32

structure Source.IsNarrow (source : Source) : Prop where
  segments : ∀ index entry, source.segmentHeader index = .ok entry →
    ∀ field, entry.field field < 2 ^ 32
  sections : ∀ index entry, source.sectionHeader index = .ok entry →
    ∀ field, entry.field field < 2 ^ 32

section Reading

theorem EntryTable.number_lt {Field Record : Type} [DecidableEq Field] {table : EntryTable}
    {layout : Layout Field} {order : ByteOrder} {bytes : Array UInt8} {index : Nat}
    {make : (Field → Nat) → Record} {number : Record → Field → Nat} {places : Field → Place}
    {entry : Record} (placed : ∀ field, layout.place? field = some (places field))
    (keeps : ∀ values : Field → Nat, (∀ field, values field < 256 ^ (places field).width) →
      ∀ field, number (make values) field = values field)
    (read : (table.read layout order bytes index).map make = .ok entry) (field : Field) :
    number entry field < 256 ^ (places field).width := by
  rw [(EntryTable.numbersAt_of_read placed keeps read field).2]
  exact order.numberAt_lt bytes _ _

theorem SegmentHeader.width_place_bits32 (field : SegmentField) :
    (place .bits32 field).width = 4 := by
  cases field <;> rfl

theorem SectionHeader.width_place_bits32 (field : SectionField) :
    (place .bits32 field).width = 4 := by
  cases field <;> rfl

namespace Image

theorem isNarrow_source {image : Image}
    (narrow : ∀ header, image.parsedHeader = .ok header → header.fileClass = .bits32) :
    image.source.IsNarrow where
  segments index entry read field := by
    obtain ⟨count, counted, below⟩ := exists_count_of_segmentHeader read
    obtain ⟨header, parsed⟩ := exists_header_of_segmentCount counted
    have found := (segmentHeader_of_lt parsed counted below).symm.trans read
    have room := EntryTable.number_lt (SegmentHeader.place?_layout header.fileClass)
      (fun _ => SegmentHeader.field_ofFields) found field
    rwa [narrow header parsed, SegmentHeader.width_place_bits32] at room
  sections index entry read field := by
    obtain ⟨count, counted, below⟩ := exists_count_of_sectionHeader read
    obtain ⟨header, parsed⟩ := exists_header_of_sectionCount counted
    have found := (sectionHeader_of_lt parsed counted below).symm.trans read
    have room := EntryTable.number_lt (SectionHeader.place?_layout header.fileClass)
      (fun _ => SectionHeader.field_ofFields) found field
    rwa [narrow header parsed, SectionHeader.width_place_bits32] at room

theorem fileClass_of_width {bytes : Array UInt8} {header : FileHeader}
    (told : (ofBytes bytes).value.width = .ok .bits32)
    (parsed : (ofBytes bytes).value.parsedHeader = .ok header) : header.fileClass = .bits32 := by
  obtain ⟨present, decoded⟩ := parsedHeader_ofBytes_eq_ok_iff.mp parsed
  have same := (readsAs_of_decode present decoded).width_eq .bits32 told
  cases named : header.fileClass with
  | bits32 => rfl
  | bits64 =>
      rw [named] at same
      cases same

end Image

namespace Session

structure IsNarrow (session : Session) : Prop where
  source : ∀ source, session.source = .ok source → source.IsNarrow
  table : ∀ segment ∈ session.table.toList, segment.IsNarrow

variable {session : Session}

theorem isNarrow_of_ofBytes {bytes : Array UInt8} (opens : ofBytes bytes = .ok session)
    (narrow : session.width = .bits32) : session.IsNarrow := by
  cases kind : (Image.ofBytes bytes).value.kind with
  | other =>
      rw [ofBytes_of_other kind] at opens
      cases opens
      cases narrow
  | elf =>
      rw [ofBytes_of_elf kind] at opens
      cases opens
      have told : (Image.ofBytes bytes).value.width = .ok .bits32 := by
        cases told : (Image.ofBytes bytes).value.width with
        | ok width =>
            rw [told] at narrow
            rw [← narrow]
            rfl
        | error cause =>
            rw [told] at narrow
            cases narrow
      constructor
      · rintro _ ⟨⟩
        exact Image.isNarrow_source fun header => Image.fileClass_of_width told
      · rintro segment ⟨⟩

theorem IsNarrow.of_mem_build (narrow : session.IsNarrow) {source : Source}
    (reads : session.source = .ok source) {segment : Segment}
    (member : segment ∈ session.build.value.1.table.toList) : segment.IsNarrow := by
  rcases exists_header_of_mem_build reads member with ⟨index, header, read, rfl⟩
  have bounded := (narrow.source source reads).segments index header read
  exact ⟨bounded .offset, bounded .vaddr, bounded .filesz, bounded .memsz⟩

theorem IsNarrow.of_mem_toList (narrow : session.IsNarrow) {walk : SectionWalk} {entry : Section}
    (started : session.sections = .ok walk) (member : .ok entry ∈ walk.toList) :
    entry.IsNarrow := by
  cases reads : session.source with
  | error error =>
      rw [sections, reads] at started
      cases started
  | ok source =>
      rw [sections_of_source reads] at started
      obtain ⟨names, count, _, _, rfl⟩ := SectionWalk.start_eq_ok_iff.mp started
      obtain ⟨index, header, read, _, offset, vaddr, size⟩ :=
        SectionWalk.exists_of_mem_toList member
      have bounded := (narrow.source source reads).sections _ _ read
      constructor
      · exact offset ▸ bounded .offset
      · exact vaddr ▸ bounded .addr
      · exact size ▸ bounded .size

theorem IsNarrow.build (narrow : session.IsNarrow) : session.build.value.1.IsNarrow := by
  cases session with
  | inert => exact narrow
  | closed width => exact narrow
  | elf source width ident table =>
      constructor
      · rw [value_build_elf]
        exact narrow.source
      · intro segment member
        exact narrow.of_mem_build rfl member

theorem IsNarrow.perform (narrow : session.IsNarrow) (request : Request) :
    (session.perform request).1.IsNarrow := by
  by_cases build : request = .build
  · subst build
    exact narrow.build
  · by_cases close : request = .close
    · subst close
      rw [Session.perform, value_close]
      constructor
      · rintro source ⟨⟩
      · rintro segment ⟨⟩
    · rwa [session.perform_fst_of_query build close]

theorem IsNarrow.run (narrow : session.IsNarrow) (requests : List Request) :
    (session.run requests).1.IsNarrow := by
  induction requests generalizing session with
  | nil => exact narrow
  | cons request rest ih => exact ih (narrow.perform request)

end Session

end Reading

section Showing

variable {width : AddressWidth}

theorem AddressWidth.showsDigits_format {address : UInt64}
    (fits : width = .bits32 → address.toNat < 2 ^ 32) :
    AddressArgument.ShowsDigits (width.format address) address.toNat
      (if width = .bits32 then 8 else 16) := by
  apply AddressArgument.showsDigits_literal
  cases width with
  | bits32 => exact Hex.length_digits_of_lt (by decide) (fits rfl)
  | bits64 => exact Hex.length_digits_of_lt (by decide) address.toNat_lt
  | unknown => exact Hex.length_digits_of_lt (by decide) address.toNat_lt

namespace Listing

def column (listing : Listing) (title : String) : List String :=
  listing.rows.filterMap fun row => ((listing.columns.map Column.title).zip row).lookup title

/-- Each row has an address, and all addresses have this many digits and so are of one length. -/
structure ShowsAddresses (listing : Listing) (count : Nat) : Prop where
  complete : (listing.column "Virtual").length = listing.rows.length
  exact : ∀ cell ∈ listing.column "Virtual",
    ∃ address, AddressArgument.ShowsDigits cell address count
  even : ∀ cell ∈ listing.column "Virtual", ∀ other ∈ listing.column "Virtual",
    cell.length = other.length

theorem column_ofSegments (width : AddressWidth) (segments : List Segment) :
    (ofSegments width segments).column "Virtual" =
      (segments.map Segment.vaddr).map width.format := by
  simp [column, ofSegments, segmentColumns, segmentRow, List.lookup]

theorem column_ofSections (width : AddressWidth) (entries : List Section) :
    (ofSections width entries).column "Virtual" =
      (entries.map Section.vaddr).map width.format := by
  simp [column, ofSections, sectionColumns, sectionRow, List.lookup]

variable {listing : Listing}

theorem showsAddresses_of_column {addresses : List UInt64}
    (cells : listing.column "Virtual" = addresses.map width.format)
    (whole : addresses.length = listing.rows.length)
    (fits : width = .bits32 → ∀ address ∈ addresses, address.toNat < 2 ^ 32) :
    listing.ShowsAddresses (if width = .bits32 then 8 else 16) := by
  have shown : ∀ cell ∈ listing.column "Virtual", ∃ address,
      AddressArgument.ShowsDigits cell address (if width = .bits32 then 8 else 16) := by
    intro cell member
    rw [cells] at member
    obtain ⟨address, present, rfl⟩ := List.mem_map.mp member
    exact ⟨_, AddressWidth.showsDigits_format fun narrow => fits narrow address present⟩
  refine ⟨?_, shown, ?_⟩
  · rw [cells, List.length_map, whole]
  · intro cell member other also
    obtain ⟨_, digits⟩ := shown cell member
    obtain ⟨_, others⟩ := shown other also
    rw [digits.length_eq, others.length_eq]

end Listing

end Showing

namespace Session

variable {session : Session}

theorem showsAddresses_of_lists {query : Query} {listing : Listing}
    (narrow : session.width = .bits32 → session.IsNarrow) (lists : session.Lists query listing) :
    listing.ShowsAddresses (if session.width = .bits32 then 8 else 16) := by
  cases lists with
  | segments built =>
      apply Listing.showsAddresses_of_column (Listing.column_ofSegments _ _)
      · simp [Listing.ofSegments]
      · intro told address member
        obtain ⟨segment, present, rfl⟩ := List.mem_map.mp member
        exact ((narrow told).build.table segment present).vaddr_lt
  | sections read =>
      obtain ⟨walk, started, items⟩ := read
      apply Listing.showsAddresses_of_column (Listing.column_ofSections _ _)
      · simp [Listing.ofSections]
      · intro told address member
        obtain ⟨entry, present, rfl⟩ := List.mem_map.mp member
        have yielded : .ok entry ∈ walk.toList := items ▸ List.mem_map_of_mem present
        exact ((narrow told).of_mem_toList started yielded).vaddr_lt

/-- However a session over a 32-bit object was used, its segments and sections have 32 bits. A
listing shows each address of such an object with eight digits, and of any other with sixteen. -/
theorem addresses_shown_alike {handle : Handle} (opens : (ofHandle handle).value = .ok session)
    (requests : List Request) :
    let last := (session.run requests).1
    (session.width = .bits32 →
      (∀ segment ∈ last.table.toList, segment.IsNarrow) ∧
      ∀ walk entry, last.sections = .ok walk → .ok entry ∈ walk.toList → entry.IsNarrow) ∧
    ∀ query json answer, query.IsListing → Answer.ofQuery last json query = .ok answer →
      ∃ listing, last.Lists query listing ∧ answer = .found (listing.page query json) ∧
        listing.ShowsAddresses (if session.width = .bits32 then 8 else 16) := by
  intro last
  have narrow (told : session.width = .bits32) : last.IsNarrow := by
    obtain ⟨bytes, opened⟩ := exists_bytes_of_ofHandle opens
    exact (isNarrow_of_ofBytes opened told).run requests
  have width : last.width = session.width := by
    rw [show last = _ from session.run_fst_eq_settled requests, width_settled]
  constructor
  · intro told
    exact ⟨(narrow told).table, fun walk entry => (narrow told).of_mem_toList⟩
  · intro query json answer listed answered
    obtain ⟨listing, lists, shown⟩ := (Answer.ofQuery_eq_ok_iff listed).mp answered
    refine ⟨listing, lists, shown, ?_⟩
    have shows_all := showsAddresses_of_lists (fun told => narrow (width ▸ told)) lists
    rwa [width] at shows_all

/-- A segment that ends with the last address of 32 bits, and a section that starts there. -/
def brimmingBytes : Array UInt8 :=
  ((FileHeader.mk .bits32 .little 2 3 1 0 52 84 0 52 32 1 40 2 1).written 1 (List.replicate 9 0) ++
    SegmentHeader.written .little ⟨1, 5, 0xffffffff, 0xfffffff0, 0, 15, 15, 1⟩ .bits32 ++
    SectionHeader.written .little ⟨0, 0, 0, 0, 0, 0, 0, 0, 0, 0⟩ .bits32 ++
    SectionHeader.written .little ⟨1, 3, 0, 0xffffffff, 164, 4, 0, 0, 1, 0⟩ .bits32 ++
    [0, 0x2e, 0x73, 0]).toArray

theorem addresses_shown_alike_brimming :
    ∃ session, (ofHandle { content := brimmingBytes }).value = .ok session ∧
      session.width = .bits32 ∧
      (session.run [.build]).1.table.toList.map Segment.vaddr = [0xfffffff0] ∧
      (∀ segment ∈ (session.run [.build]).1.table.toList, segment.IsNarrow) ∧
      ∀ query : Query, query.IsListing →
        ∃ listing, session.Lists query listing ∧ listing.ShowsAddresses 8 := by
  obtain ⟨session, opens, told, loaded, segments, sections⟩ :
      ∃ session, (ofHandle { content := brimmingBytes }).value = .ok session ∧
        session.width = .bits32 ∧
        (session.run [.build]).1.table.toList.map Segment.vaddr = [0xfffffff0] ∧
        (Answer.ofQuery session false .segments).isOk = true ∧
        (Answer.ofQuery session false .sections).isOk = true := by
    have healthy : Handle.Healthy { content := brimmingBytes } := ⟨rfl, rfl, by decide⟩
    have elf : (Image.ofBytes brimmingBytes).value.kind = .elf := by decide +kernel
    have opens := (value_ofHandle_of_healthy healthy).trans (ofBytes_of_elf elf)
    exact ⟨_, opens, by decide +kernel, by decide +kernel, by decide +kernel, by decide +kernel⟩
  obtain ⟨narrow, _⟩ := addresses_shown_alike opens [.build]
  obtain ⟨_, shown⟩ := addresses_shown_alike opens []
  rw [if_pos told] at shown
  refine ⟨session, opens, told, loaded, (narrow told).1, ?_⟩
  intro query listed
  have succeeds : (Answer.ofQuery session false query).isOk = true := by
    cases query with
    | info | offset address | find name => cases listed
    | segments => exact segments
    | sections => exact sections
  cases answered : Answer.ofQuery session false query with
  | error failure =>
      rw [answered] at succeeds
      cases succeeds
  | ok answer =>
      obtain ⟨listing, lists, _, eight⟩ := shown query false answer listed answered
      exact ⟨listing, lists, eight⟩

end Session

end ElfTables

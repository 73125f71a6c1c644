import ElfTables.Proofs.JsonText
import ElfTables.Proofs.PrintedListings
import ElfTables.Proofs.PrintedNumbers
import ElfTables.Proofs.SegmentKinds

namespace ElfTables

/-- What a listing shows of a segment. -/
structure Segment.ListedAlike (segment other : Segment) : Prop where
  fileOffset : segment.fileOffset = other.fileOffset
  vaddr : segment.vaddr = other.vaddr
  readable : segment.flags.readable = other.flags.readable
  writable : segment.flags.writable = other.flags.writable
  executable : segment.flags.executable = other.flags.executable
  code : segment.code = other.code

namespace SegmentFlags

variable {flags other : SegmentFlags}

theorem letters_iff_mem (flags : SegmentFlags) :
    (flags.readable = true ↔ 'R' ∈ flags.letters) ∧
    (flags.writable = true ↔ 'W' ∈ flags.letters) ∧
    (flags.executable = true ↔ 'X' ∈ flags.letters) := by
  unfold letters
  cases flags.readable <;> cases flags.writable <;> cases flags.executable <;> decide

theorem eq_of_text (same : flags.text = other.text) :
    flags.readable = other.readable ∧ flags.writable = other.writable ∧
      flags.executable = other.executable := by
  have letters : flags.letters = other.letters := String.ofList_inj.mp same
  obtain ⟨reads, writes, executes⟩ := flags.letters_iff_mem
  obtain ⟨also_reads, also_writes, also_executes⟩ := other.letters_iff_mem
  rw [letters] at reads writes executes
  refine ⟨?_, ?_, ?_⟩
  · exact Bool.eq_iff_iff.mpr (reads.trans also_reads.symm)
  · exact Bool.eq_iff_iff.mpr (writes.trans also_writes.symm)
  · exact Bool.eq_iff_iff.mpr (executes.trans also_executes.symm)

end SegmentFlags

namespace SegmentKind

theorem head_name_of_mem : ∀ kind ∈ registry, kind.name.toList.head? = some 'P' := by
  decide +kernel

theorem nodup_names : (registry.map name).Nodup := by
  decide +kernel

variable {code other : Int} {kind named : SegmentKind}

theorem code_eq_of_name (found : find? code = some kind) (also : find? other = some named)
    (same : kind.name = named.name) : code = other := by
  have equal : kind = named :=
    List.inj_on_of_nodup_map nodup_names (mem_of_find? found) (mem_of_find? also) same
  rw [← code_of_find? found, ← code_of_find? also, equal]

end SegmentKind

namespace Listing

section Cells

variable {segment other : Segment} {kind : SegmentKind}

theorem typeCell_of_find? (found : SegmentKind.find? segment.code.toNat = some kind) :
    typeCell segment = kind.name := by
  rw [typeCell, if_pos (Segment.isKnown_of_find? found), Segment.kind_of_find? found]

theorem typeCell_of_find?_none (strange : SegmentKind.find? segment.code.toNat = none) :
    (typeCell segment).toList =
      "??? (".toList ++ (Hex.literal 0 segment.code.toNat).toList ++ ")".toList := by
  have hidden : ¬segment.isKnown = true := by
    rw [Segment.isKnown_of_find?_none strange]
    exact Bool.false_ne_true
  rw [typeCell, if_neg hidden, Segment.kind_of_find?_none strange]
  simp [toString, SegmentKind.unknown]

theorem typeCell_ne (found : SegmentKind.find? segment.code.toNat = some kind)
    (strange : SegmentKind.find? other.code.toNat = none) : typeCell segment ≠ typeCell other := by
  intro same
  have begins := SegmentKind.head_name_of_mem kind (SegmentKind.mem_of_find? found)
  rw [← typeCell_of_find? found, same, typeCell_of_find?_none strange] at begins
  simp at begins

theorem typeCell_inj (same : typeCell segment = typeCell other) : segment.code = other.code := by
  cases found : SegmentKind.find? segment.code.toNat with
  | some kind =>
      cases also : SegmentKind.find? other.code.toNat with
      | some named =>
          rw [typeCell_of_find? found, typeCell_of_find? also] at same
          exact UInt32.toNat_inj.mp (Int.ofNat_inj.mp (SegmentKind.code_eq_of_name found also same))
      | none => exact absurd same (typeCell_ne found also)
  | none =>
      cases also : SegmentKind.find? other.code.toNat with
      | some named => exact absurd same.symm (typeCell_ne also found)
      | none =>
          have characters := congrArg String.toList same
          rw [typeCell_of_find?_none found, typeCell_of_find?_none also,
            List.append_cancel_right_eq, List.append_cancel_left_eq] at characters
          have small (code : UInt32) : code.toNat < UInt64.size :=
            Nat.lt_trans code.toNat_lt (by decide)
          have codes := Hex.eq_of_literal (small _) (small _) (String.toList_inj.mp characters)
          exact UInt32.toNat_inj.mp codes

end Cells

section Rows

variable {width wide : AddressWidth}

theorem listedAlike_of_segmentRow {segment other : Segment}
    (same : segmentRow width segment = segmentRow wide other) : segment.ListedAlike other := by
  simp only [segmentRow, List.cons.injEq, and_true] at same
  obtain ⟨offset, address, flags, type, _⟩ := same
  obtain ⟨readable, writable, executable⟩ := SegmentFlags.eq_of_text flags
  exact ⟨formatOffset_inj offset, Hex.literal_inj address, readable, writable, executable,
    typeCell_inj type⟩

theorem eq_of_sectionRow {entry other : Section}
    (same : sectionRow width entry = sectionRow wide other) : entry = other := by
  simp only [sectionRow, List.cons.injEq, and_true] at same
  obtain ⟨name, offset, address, size⟩ := same
  rw [Section.mk.injEq]
  exact ⟨name, formatOffset_inj offset, Hex.literal_inj address, Hex.literal_inj size⟩

theorem forall₂_of_rows {α : Type} {row also : α → List String} {related : α → α → Prop}
    (tells : ∀ {item other}, row item = also other → related item other) {items others : List α}
    (same : items.map row = others.map also) : List.Forall₂ related items others := by
  rw [← List.forall₂_eq_eq_eq, List.forall₂_map_left_iff, List.forall₂_map_right_iff] at same
  exact same.imp fun _ _ => tells

end Rows

section Records

variable {listing other : Listing}

def Filled (listing : Listing) : Prop :=
  ∀ row ∈ listing.rows, row.length = listing.columns.length

theorem filled_ofSegments (width : AddressWidth) (segments : List Segment) :
    (ofSegments width segments).Filled := by
  intro row member
  obtain ⟨segment, _, rfl⟩ := List.mem_map.mp member
  rfl

theorem filled_ofSections (width : AddressWidth) (entries : List Section) :
    (ofSections width entries).Filled := by
  intro row member
  obtain ⟨entry, _, rfl⟩ := List.mem_map.mp member
  rfl

theorem map_values_toRecords (filled : listing.Filled) :
    listing.toRecords.map (List.map Prod.snd) = listing.rows.map (List.map JsonScalar.string) := by
  rw [toRecords, List.map_map]
  apply List.map_congr_left
  intro row member
  have reaches : row.length ≤ listing.columns.length := (filled row member).le
  calc
    _ = ((listing.columns.zip row).map Prod.snd).map JsonScalar.string := by
      rw [Function.comp_apply, List.map_zipWith, List.map_map, ← List.map_uncurry_zip_eq_zipWith]
      rfl
    _ = row.map JsonScalar.string := by rw [List.map_snd_zip reaches]

theorem rows_eq_of_render (filled : listing.Filled) (also : other.Filled)
    (same : listing.render true = other.render true) : listing.rows = other.rows := by
  have records : listing.toRecords = other.toRecords := Json.rows_inj same
  have cells := map_values_toRecords filled
  rw [records, map_values_toRecords also] at cells
  have string_injective : Function.Injective JsonScalar.string := fun _ _ => JsonScalar.string.inj
  exact (List.map_injective_iff.mpr (List.map_injective_iff.mpr string_injective) cells).symm

end Records

end Listing

namespace Session

/-- A query as JSON goes well and prints this. -/
def PrintsJson (session : Session) (query : Query) (text : String) : Prop :=
  ∃ colours, let outcome := Program.ofAnswer colours (Answer.ofQuery session true query)
    outcome.exitCode = 0 ∧ outcome.stdout = text

variable {session left right : Session} {query : Query} {text : String}

theorem printsJson_of_lists {listing : Listing} (lists : session.Lists query listing) :
    session.PrintsJson query (Answer.line (listing.render true)) := by
  refine ⟨false, ?_⟩
  rw [Answer.ofQuery_of_lists lists]
  exact ⟨rfl, rfl⟩

theorem printsJson_iff (listed : query.IsListing) :
    session.PrintsJson query text ↔
      ∃ listing, session.Lists query listing ∧ text = Answer.line (listing.render true) := by
  constructor
  · rintro ⟨colours, succeeds, rfl⟩
    cases answered : Answer.ofQuery session true query with
    | error failure =>
        rw [answered] at succeeds
        cases succeeds
    | ok answer =>
        obtain ⟨listing, lists, rfl⟩ := (Answer.ofQuery_eq_ok_iff listed).mp answered
        exact ⟨listing, lists, rfl⟩
  · rintro ⟨listing, lists, rfl⟩
    exact printsJson_of_lists lists

theorem PrintsJson.render_eq (prints : left.PrintsJson query text)
    (also : right.PrintsJson query text) (listed : query.IsListing) :
    ∃ listing other, left.Lists query listing ∧ right.Lists query other ∧
      listing.render true = other.render true := by
  obtain ⟨listing, lists, rfl⟩ := (printsJson_iff listed).mp prints
  obtain ⟨other, lists_too, same⟩ := (printsJson_iff listed).mp also
  exact ⟨listing, other, lists, lists_too, Answer.line_inj same⟩

/-- Two sessions of any widths that list the same text as JSON list the same sections, or else
segments alike, in the same order. -/
theorem json_listings_lose_nothing (left right : Session) (text : String) :
    (left.PrintsJson .sections text → right.PrintsJson .sections text →
      ∃ entries, left.HasSections entries ∧ right.HasSections entries) ∧
    (left.PrintsJson .segments text → right.PrintsJson .segments text →
      List.Forall₂ Segment.ListedAlike left.build.value.1.table.toList
        right.build.value.1.table.toList) := by
  constructor
  case left =>
    intro prints also
    obtain ⟨_, _, lists, lists_too, same⟩ := prints.render_eq also trivial
    cases lists with
    | @sections entries read =>
      cases lists_too with
      | @sections others read_too =>
        have rows := Listing.rows_eq_of_render (Listing.filled_ofSections _ _)
          (Listing.filled_ofSections _ _) same
        have equal : List.Forall₂ Eq entries others :=
          Listing.forall₂_of_rows Listing.eq_of_sectionRow rows
        rw [List.forall₂_eq_eq_eq] at equal
        exact ⟨entries, read, equal ▸ read_too⟩
  case right =>
    intro prints also
    obtain ⟨_, _, lists, lists_too, same⟩ := prints.render_eq also trivial
    cases lists with
    | segments built =>
      cases lists_too with
      | segments built_too =>
        have rows := Listing.rows_eq_of_render (Listing.filled_ofSegments _ _)
          (Listing.filled_ofSegments _ _) same
        exact Listing.forall₂_of_rows Listing.listedAlike_of_segmentRow rows

def oddlyNamed (width : AddressWidth) (flags : UInt32) : Source where
  setup := .ok ()
  kind := .elf
  width := .ok width
  ident := none
  segmentCount := .ok 2
  segmentHeader index :=
    .ok ⟨if index = 0 then 0x6ffffffa else 0x6474e554, flags, 0x40, 0xffffffff81000000, 0, 16, 16, 1⟩
  sectionCount := .ok 2
  sectionHeader _ := .ok ⟨7, 1, 0, 0xffffffff81000000, 0x40, 16, 0, 0, 1, 0⟩
  nameTable := .ok 1
  stringAt _ _ := .ok "\".\\\x01\ufffd"

theorem json_listings_lose_nothing_oddlyNamed :
    let left : Session := .elf (oddlyNamed .bits32 5) .bits32 none .empty
    let right : Session := .elf (oddlyNamed .bits64 0x105) .bits64 none .empty
    (∃ text entries, left.PrintsJson .sections text ∧ right.PrintsJson .sections text ∧
      left.HasSections entries ∧ right.HasSections entries) ∧
    (∃ text, left.PrintsJson .segments text ∧ right.PrintsJson .segments text ∧
      List.Forall₂ Segment.ListedAlike left.build.value.1.table.toList
        right.build.value.1.table.toList) := by
  intro left right
  constructor
  case left =>
    let entry : Section := ⟨"\".\\\x01\ufffd", 0x40, 0xffffffff81000000, 16⟩
    have read : left.HasSections [entry] := ⟨_, rfl, by decide +kernel⟩
    have read_too : right.HasSections [entry] := ⟨_, rfl, by decide +kernel⟩
    have shown_alike : Listing.ofSections left.width [entry] =
        Listing.ofSections right.width [entry] := by decide +kernel
    have prints := printsJson_of_lists (.sections read)
    have also := printsJson_of_lists (.sections read_too)
    rw [← shown_alike] at also
    obtain ⟨entries, both⟩ := (json_listings_lose_nothing left right _).1 prints also
    exact ⟨_, entries, prints, also, both⟩
  case right =>
    have shown_alike : Listing.ofSegments left.width left.build.value.1.table.toList =
        Listing.ofSegments right.width right.build.value.1.table.toList := by decide +kernel
    have built : left.build.value.2 = .ok () := rfl
    have built_too : right.build.value.2 = .ok () := rfl
    have prints := printsJson_of_lists (.segments built)
    have also := printsJson_of_lists (.segments built_too)
    rw [← shown_alike] at also
    exact ⟨_, prints, also, (json_listings_lose_nothing left right _).2 prints also⟩

end Session

end ElfTables

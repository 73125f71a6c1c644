import ElfTables.Proofs.AddressColumns
import ElfTables.Proofs.AddressTranslation
import ElfTables.Proofs.GridCells

/-!
How addresses and offsets look in text. By the convention an address is as wide as those of its
object, and an offset has sixteen digits whatever the object. All that is printed keeps to it but
one line: the address that was asked for is shown as wide as an offset, so for a 32-bit object the
line breaks the convention, and for no other (`Program.shown_by_convention_iff`).
-/
namespace ElfTables

inductive Piece where
  | address (value : UInt64)
  | offset (value : UInt64)
  | words (text : String)
  deriving DecidableEq, Repr

/-- How the convention has it, in an object of this width. -/
def Piece.shown (width : AddressWidth) : Piece → String
  | .address value => width.format value
  | .offset value => formatOffset value
  | .words text => text

@[simp] theorem Piece.shown_address (width : AddressWidth) (value : UInt64) :
    (Piece.address value).shown width = width.format value := rfl

@[simp] theorem Piece.shown_offset (width : AddressWidth) (value : UInt64) :
    (Piece.offset value).shown width = formatOffset value := rfl

@[simp] theorem Piece.shown_words (width : AddressWidth) (text : String) :
    (Piece.words text).shown width = text := rfl

/-- What a text says, apart from how wide its numbers are. -/
inductive Content where
  | line (pieces : List Piece)
  | table (heading : String) (columns : List Column) (rows : List (List Piece))
  deriving DecidableEq, Repr

namespace Content

def ofRows (notice heading : String) (columns : List Column) : List (List Piece) → Content
  | [] => .line [.words notice]
  | rows => .table heading columns rows

def pieces : Content → List Piece
  | .line pieces => pieces
  | .table _ _ rows => rows.flatten

def shown (width : AddressWidth) : Content → String
  | .line pieces => String.ofList (pieces.flatMap fun piece => (piece.shown width).toList)
  | .table heading columns rows =>
    heading ++ Answer.line (Listing.mk columns (rows.map (List.map (Piece.shown width)))).toGrid

/-- A text that says this by the convention. Each address and each offset can be read there, the
addresses with as many digits as the width has wherever these are enough. -/
structure Conventional (content : Content) (width : AddressWidth) (text : String) : Prop where
  whole : text = content.shown width
  addresses : ∀ address, .address address ∈ content.pieces →
    (width.format address).toList <:+: text.toList ∧
      ((width = .bits32 → address.toNat < 2 ^ 32) →
        AddressArgument.ShowsDigits (width.format address) address.toNat
          (if width = .bits32 then 8 else 16))
  offsets : ∀ offset, .offset offset ∈ content.pieces →
    (formatOffset offset).toList <:+: text.toList ∧
      AddressArgument.ShowsDigits (formatOffset offset) offset.toNat 16

end Content

def Segment.pieces (segment : Segment) : List Piece :=
  [.offset segment.fileOffset, .address segment.vaddr, .words segment.flags.text,
    .words (Listing.typeCell segment), .words segment.kind.description]

def Section.pieces (entry : Section) : List Piece :=
  [.words entry.name, .offset entry.fileOffset, .address entry.vaddr,
    .words (Hex.literal 0 entry.size.toNat)]

/-- What the session says in text to a query that goes well. -/
inductive Session.Tells (session : Session) : Query → Content → Prop
  | segments (built : session.build.value.2 = .ok ()) :
      Tells session .segments (.ofRows "No program headers found.\n" "" Listing.segmentColumns
        (session.build.value.1.table.toList.map Segment.pieces))
  | sections {entries : List Section} (read : session.HasSections entries) :
      Tells session .sections (.ofRows "No sections found (possibly stripped binary).\n"
        s!"Found {entries.length} section header records:\n" Listing.sectionColumns
        (entries.map Section.pieces))
  | offset {address : UInt64} {segment : Segment} (built : session.build.value.2 = .ok ())
      (covering : session.build.value.1.table.coveringSegment? address = some segment) :
      Tells session (.offset address) (.line [.words "  offset_of(", .address address,
        .words ") = ", .offset (segment.offsetAt address), .words s!" ({segment.kind.name})\n"])
  | find {name : String} {entry : Section}
      (found : (session.findSection name).value = .ok (some entry)) :
      Tells session (.find name) (.line [.words s!"{name}: offset ", .offset entry.fileOffset,
        .words s!", size {Hex.literal 0 entry.size.toNat}\n"])

namespace Query

def IsTranslation : Query → Prop
  | .offset _ => True
  | .info | .segments | .sections | .find _ => False

def widthShown (width : AddressWidth) : Query → AddressWidth
  | .offset _ => .bits64
  | .info | .segments | .sections | .find _ => width

end Query

section Texts

theorem newline_not_mem_literal (width : Nat) (value : UInt64) :
    '\n' ∉ (Hex.literal width value.toNat).toList := by
  have digits := AddressArgument.not_mem_of_denotes '\n' (by decide) rfl
    (AddressArgument.denotes_digits width value.toNat_lt)
  simpa [Hex.literal] using digits

namespace Content

variable {content : Content}

theorem infix_shown (width : AddressWidth) {piece : Piece} (member : piece ∈ content.pieces)
    (single : '\n' ∉ (piece.shown width).toList) :
    (piece.shown width).toList <:+: (content.shown width).toList := by
  cases content with
  | line pieces =>
      rw [shown, String.toList_ofList]
      exact List.infix_of_mem_flatten (List.mem_map_of_mem member)
  | table heading columns rows =>
      rcases List.mem_flatten.mp member with ⟨row, listed, inside⟩
      have cell : (piece.shown width).toList ∈
          (row.map (Piece.shown width)).map String.toList :=
        List.mem_map_of_mem (List.mem_map_of_mem inside)
      have grid := Grid.infix_render (columns.map fun column => column.title.toList)
        (List.mem_map_of_mem (List.mem_map_of_mem listed)) cell single
      rw [shown, String.toList_append, Answer.line, String.toList_ofList]
      apply grid.trans
      exact (List.prefix_append _ _).isInfix.trans (List.suffix_append _ _).isInfix

theorem shown_ofRows (width : AddressWidth) (notice heading : String) (columns : List Column)
    (rows : List (List Piece)) :
    (ofRows notice heading columns rows).shown width =
      if rows = [] then notice
      else heading ++
        Answer.line (Listing.mk columns (rows.map (List.map (Piece.shown width)))).toGrid := by
  cases rows with
  | nil => simp [ofRows, shown]
  | cons first rest => simp [ofRows, shown]

theorem conventional_shown (content : Content) (width : AddressWidth) :
    content.Conventional width (content.shown width) where
  whole := rfl
  addresses address member := by
    have present := infix_shown width member
    rw [Piece.shown_address] at present
    exact ⟨present (newline_not_mem_literal _ _), AddressWidth.showsDigits_format⟩
  offsets offset member := by
    have present := infix_shown width member
    rw [Piece.shown_offset] at present
    have sixteen : (Hex.digits 16 offset.toNat).length = 16 :=
      Hex.length_digits_of_lt (by decide) offset.toNat_lt
    exact ⟨present (newline_not_mem_literal _ _), AddressArgument.showsDigits_literal sixteen⟩

theorem conventional_iff {width : AddressWidth} {text : String} :
    content.Conventional width text ↔ text = content.shown width := by
  constructor
  · exact Conventional.whole
  · rintro rfl
    exact content.conventional_shown width

end Content

end Texts

section Answers

theorem Listing.ofSegments_eq (width : AddressWidth) (segments : List Segment) :
    Listing.ofSegments width segments =
      ⟨segmentColumns, (segments.map Segment.pieces).map (List.map (Piece.shown width))⟩ := by
  rw [List.map_map]
  rfl

theorem Listing.ofSections_eq (width : AddressWidth) (entries : List Section) :
    Listing.ofSections width entries =
      ⟨sectionColumns, (entries.map Section.pieces).map (List.map (Piece.shown width))⟩ := by
  rw [List.map_map]
  rfl

variable {session : Session} {query : Query} {listing : Listing} {text : String}

theorem Session.Lists.tells (lists : session.Lists query listing) :
    ∃ content, session.Tells query content ∧
      listing.page query false = content.shown session.width := by
  cases lists with
  | segments built =>
      refine ⟨_, .segments built, ?_⟩
      rw [Content.shown_ofRows, Listing.ofSegments_eq]
      simp [Listing.page, Listing.notice, Listing.heading, Listing.render]
  | sections read =>
      refine ⟨_, .sections read, ?_⟩
      rw [Content.shown_ofRows, Listing.ofSections_eq]
      simp [Listing.page, Listing.notice, Listing.heading, Listing.render]

theorem Answer.tells_of_translation {address : UInt64}
    (answered : offset session address false = .ok (.found text)) :
    ∃ content, session.Tells (.offset address) content ∧ text = content.shown .bits64 := by
  cases outcome : session.build.value.2 with
  | error error =>
      rw [offset_of_failed outcome] at answered
      cases answered
  | ok done =>
      cases covering : session.build.value.1.table.coveringSegment? address with
      | none =>
          rw [offset_of_uncovered outcome covering] at answered
          cases answered
      | some segment =>
          rw [offset_of_covered outcome covering rfl] at answered
          cases answered
          have wide : AddressWidth.bits64.format address = formatOffset address := rfl
          refine ⟨_, .offset outcome covering, ?_⟩
          simp [← String.toList_inj, Content.shown, wide, toString]

theorem Answer.tells_of_search {name : String}
    (answered : find session name false = .ok (.found text)) :
    ∃ content, session.Tells (.find name) content ∧ text = content.shown session.width := by
  cases search : (session.findSection name).value with
  | error error =>
      rw [find_of_error search] at answered
      cases answered
  | ok section? =>
      cases section? with
      | none =>
          rw [find_of_none search] at answered
          cases answered
      | some entry =>
          rw [find_of_some search rfl] at answered
          cases answered
          refine ⟨_, .find search, ?_⟩
          simp [← String.toList_inj, Content.shown, toString]

theorem Answer.tells_of_found (asks : query ≠ .info)
    (answered : Answer.ofQuery session false query = .ok (.found text)) :
    ∃ content, session.Tells query content ∧
      text = content.shown (query.widthShown session.width) := by
  have listed (whole : query.IsListing) : ∃ content, session.Tells query content ∧
      text = content.shown session.width := by
    rcases (ofQuery_eq_ok_iff whole).mp answered with ⟨listing, lists, page⟩
    rcases lists.tells with ⟨content, tells, printed⟩
    exact ⟨content, tells, (Answer.found.inj page).trans printed⟩
  cases query with
  | info => exact absurd rfl asks
  | segments => exact listed trivial
  | sections => exact listed trivial
  | offset address => exact tells_of_translation answered
  | find name => exact tells_of_search answered

end Answers

section Departure

theorem AddressWidth.format_ne_formatOffset {address : UInt64}
    (small : address.toNat < 16 ^ 15) :
    AddressWidth.bits32.format address ≠ formatOffset address := by
  intro same
  have few : (Nat.toDigits 16 address.toNat).length ≤ 15 :=
    (Nat.length_toDigits_le_iff (by decide) (by decide)).mpr small
  have lengths := congrArg (fun text => text.toList.length) same
  simp only [AddressWidth.format, AddressWidth.digits, formatOffset, Hex.literal,
    String.toList_ofList, List.length_cons, Hex.length_digits] at lengths
  omega

theorem Segment.IsNarrow.address_lt {segment : Segment} {address : UInt64}
    (narrow : segment.IsNarrow) (covered : segment.covers address = true) :
    address.toNat < 2 ^ 33 := by
  have bounds := (segment.covers_iff address).mp covered
  have start := narrow.vaddr_lt
  have extent := narrow.fileSize_lt
  omega

theorem Session.Tells.shown_eq_iff {session : Session} {query : Query} {content : Content}
    (tells : session.Tells query content) (narrow : session.width = .bits32 → session.IsNarrow) :
    content.shown (query.widthShown session.width) = content.shown session.width ↔
      (session.width = .bits32 → ¬query.IsTranslation) := by
  cases tells with
  | segments built => exact ⟨fun _ _ => id, fun _ => rfl⟩
  | sections read => exact ⟨fun _ _ => id, fun _ => rfl⟩
  | find found => exact ⟨fun _ _ => id, fun _ => rfl⟩
  | @offset address segment built covering =>
      cases width : session.width with
      | bits64 => simp [Query.widthShown]
      | unknown =>
          have alike : AddressWidth.unknown.format = AddressWidth.bits64.format := rfl
          simp [Query.widthShown, Content.shown, alike]
      | bits32 =>
          have held : segment ∈ session.build.value.1.table.toList :=
            List.mem_of_find?_eq_some covering
          have small : address.toNat < 2 ^ 33 :=
            ((narrow width).build.table segment held).address_lt
              (covers_of_coveringSegment? covering)
          have apart := AddressWidth.format_ne_formatOffset (Nat.lt_trans small (by decide))
          simp only [Query.IsTranslation, not_true, imp_false, iff_false]
          intro same
          have alike : AddressWidth.bits64.format address = AddressWidth.bits32.format address := by
            simpa [Query.widthShown, Content.shown] using same
          exact apart alike.symm

end Departure

namespace Program

/-- What a run without the switch for JSON prints of addresses and offsets is shown by the
convention, unless it is the address that was asked for in a 32-bit object. That address is shown
by the convention for 64-bit objects. -/
theorem shown_by_convention_iff {arguments : List String} {path : String} {query : Query}
    (understood : Arguments.parse arguments = .ok (.inspect ⟨path, false, query⟩))
    (asks : query ≠ .info) (files : String → Opened) (colours : Bool)
    (succeeds : (run arguments files colours).exitCode = 0) :
    let stdout := (run arguments files colours).stdout
    ∃ session content, (files path).Serves query session ∧ session.Tells query content ∧
      content.Conventional (query.widthShown session.width) stdout ∧
      (content.Conventional session.width stdout ↔
        (session.width = .bits32 → ¬query.IsTranslation)) := by
  intro stdout
  rcases exists_answer_of_exits understood succeeds with ⟨session, serves, answered⟩
  rcases Answer.tells_of_found asks answered with ⟨content, tells, printed⟩
  have narrow : session.width = .bits32 → session.IsNarrow := by
    rcases serves with ⟨handle, _, opens, _⟩
    rcases Session.exists_bytes_of_ofHandle opens with ⟨bytes, opened⟩
    exact Session.isNarrow_of_ofBytes opened
  refine ⟨session, content, serves, tells, Content.conventional_iff.mpr printed, ?_⟩
  rw [Content.conventional_iff, show stdout = _ from printed]
  exact tells.shown_eq_iff narrow

theorem understood_translation : Arguments.parse ["brimming", "offset", "0xfffffff8"] =
    .ok (.inspect ⟨"brimming", false, .offset 0xfffffff8⟩) := rfl

theorem understood_listing : Arguments.parse ["brimming", "sht"] =
    .ok (.inspect ⟨"brimming", false, .sections⟩) := rfl

def brimmingFiles (_ : String) : Opened := .ready { content := Session.brimmingBytes }

def translationLine : String :=
  "  offset_of(0x00000000fffffff8) = 0x0000000100000007 (PT_LOAD)\n"

theorem run_brimming :
    ∃ session, (∀ query, (brimmingFiles "brimming").Serves query session) ∧
      session.width = .bits32 ∧
      run ["brimming", "offset", "0xfffffff8"] brimmingFiles false = ⟨0, translationLine, ""⟩ ∧
      (run ["brimming", "sht"] brimmingFiles false).exitCode = 0 := by
  have healthy : Handle.Healthy { content := Session.brimmingBytes } := ⟨rfl, rfl, by decide⟩
  have elf : (Image.ofBytes Session.brimmingBytes).value.kind = .elf := by decide +kernel
  have opens := (Session.value_ofHandle_of_healthy healthy).trans (Session.ofBytes_of_elf elf)
  have serves (query : Query) : (brimmingFiles "brimming").Serves query _ :=
    ⟨_, rfl, opens, Or.inl rfl⟩
  refine ⟨_, serves, by decide +kernel, ?_, ?_⟩
  · rw [run_of_serves understood_translation (serves _) false]
    decide +kernel
  · rw [run_of_serves understood_listing (serves _) false]
    decide +kernel

theorem shown_by_convention_iff_brimming :
    run ["brimming", "offset", "0xfffffff8"] brimmingFiles false = ⟨0, translationLine, ""⟩ ∧
      (run ["brimming", "sht"] brimmingFiles false).exitCode = 0 ∧
      ∃ session : Session, session.width = .bits32 ∧
        (∃ content, session.Tells (.offset 0xfffffff8) content ∧
          content.Conventional .bits64 translationLine ∧
          ¬content.Conventional session.width translationLine) ∧
        ∃ content, session.Tells .sections content ∧
          content.Conventional session.width
            (run ["brimming", "sht"] brimmingFiles false).stdout := by
  rcases run_brimming with ⟨session, serves, narrow, translated, listed⟩
  refine ⟨translated, listed, session, narrow, ?_, ?_⟩
  · have exits : (run ["brimming", "offset", "0xfffffff8"] brimmingFiles false).exitCode = 0 := by
      rw [translated]
    have decided :=
      shown_by_convention_iff understood_translation (by decide) brimmingFiles false exits
    rw [translated] at decided
    rcases decided with ⟨other, content, again, tells, wide, kept_iff⟩
    rw [(serves _).unique again] at tells kept_iff
    refine ⟨content, tells, wide, ?_⟩
    intro kept
    exact kept_iff.mp kept narrow trivial
  · rcases shown_by_convention_iff understood_listing (by decide) brimmingFiles false listed
      with ⟨other, content, again, tells, _, kept_iff⟩
    rw [(serves _).unique again] at tells kept_iff
    exact ⟨content, tells, kept_iff.mpr fun _ => id⟩

theorem narrow_translation_departs :
    ¬∀ (arguments : List String) (path : String) (query : Query) (files : String → Opened)
        (colours : Bool) (session : Session) (content : Content) (address : UInt64),
      Arguments.parse arguments = .ok (.inspect ⟨path, false, query⟩) →
        query.IsListing ∨ query.IsTranslation →
        (run arguments files colours).exitCode = 0 → (files path).Serves query session →
        session.Tells query content → .address address ∈ content.pieces →
        (session.width.format address).toList <:+:
          (run arguments files colours).stdout.toList := by
  intro follows
  rcases run_brimming with ⟨session, serves, narrow, translated, _⟩
  have exits : (run ["brimming", "offset", "0xfffffff8"] brimmingFiles false).exitCode = 0 := by
    rw [translated]
  have short : AddressWidth.bits32.format 0xfffffff8 = "0xfffffff8" := by decide +kernel
  have absent : ¬"0xfffffff8".toList <:+: translationLine.toList := by decide
  rcases exists_answer_of_exits understood_translation exits with ⟨other, again, answered⟩
  rw [(serves _).unique again] at answered
  rcases Answer.tells_of_found (by decide) answered with ⟨content, tells, _⟩
  have told : .address 0xfffffff8 ∈ content.pieces := by
    cases tells with
    | offset built covering => simp [Content.pieces]
  have there := follows _ _ _ _ _ session content 0xfffffff8 understood_translation
    (Or.inr trivial) exits (serves _) tells told
  simp only [narrow, short, translated] at there
  exact absent there

end Program

end ElfTables

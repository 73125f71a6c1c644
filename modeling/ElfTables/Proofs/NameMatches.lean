import ElfTables.Proofs.LossyDecoding
import ElfTables.Proofs.SectionScans
import ElfTables.Proofs.SectionSearch
import ElfTables.Proofs.StringLookups
import ElfTables.Proofs.TableEntries

/-!
Searches by name over the bytes of the names. Decoding a name may lose bytes, yet a search for a
text without the replacement character finds just the first section whose name is the encoding of
that text (`Session.findSection_by_raw_name`).
-/
namespace ElfTables

def Utf8.Valid (bytes : List UInt8) : Prop := ∃ text, Utf8.encode text = bytes

theorem Utf8.valid_iff {bytes : List UInt8} :
    Utf8.Valid bytes ↔ Utf8.encode (Utf8.decode bytes) = bytes := by
  constructor
  · intro valid
    rcases valid with ⟨text, rfl⟩
    rw [decode_encode]
  · intro same
    exact ⟨decode bytes, same⟩

instance (bytes : List UInt8) : Decidable (Utf8.Valid bytes) :=
  decidable_of_iff _ Utf8.valid_iff.symm

theorem Utf8.zero_mem_encode {text : String} (zero : '\x00' ∈ text.toList) :
    0 ∈ Utf8.encode text := by
  rw [encode_eq_flatMap, List.mem_flatMap]
  exact ⟨'\x00', zero, by decide⟩

theorem zero_not_mem_of_isLeast {bytes : Array UInt8} {start bound stop : Nat}
    (least : IsLeast (zerosWithin bytes start bound) stop) :
    0 ∉ (bytes.extract start stop).toList := by
  intro zero
  rw [Array.mem_toList_iff, Array.mem_extract_iff_getElem] at zero
  obtain ⟨index, inside, isZero⟩ := zero
  have early : start + index < stop := by omega
  have member : start + index ∈ zerosWithin bytes start bound := by
    refine ⟨⟨Nat.le_add_right _ _, Nat.lt_trans early least.1.1.2⟩, ?_⟩
    rw [Array.getElem?_eq_getElem (by omega), isZero]
  exact absurd (least.2 member) (Nat.not_le.mpr early)

namespace Image

/-- These bytes are the name of the section: they stand at its place in the name table, with the
first zero byte behind them. -/
def HasRawName (image : Image) (index : Nat) (raw : List UInt8) : Prop :=
  ∃ names table header, image.nameTable = .ok names ∧ image.sectionHeader names = .ok table ∧
    table.type = SectionHeader.stringTable ∧ image.sectionHeader index = .ok header ∧
    ∃ stop, IsLeast (table.nameEnds image.bytes header.name.toNat) stop ∧
      (image.bytes.extract (table.offset.toNat + header.name.toNat) stop).toList = raw

variable {image : Image} {index names : Nat} {raw other : List UInt8}

theorem HasRawName.unique (has : image.HasRawName index raw)
    (also : image.HasRawName index other) : raw = other := by
  rcases has with ⟨names, table, header, named, found, _, read, stop, least, rfl⟩
  rcases also with ⟨names', table', header', named', found', _, read', stop', least', rfl⟩
  cases Except.ok.inj (named.symm.trans named')
  cases Except.ok.inj (found.symm.trans found')
  cases Except.ok.inj (read.symm.trans read')
  rw [least.unique least']

theorem HasRawName.zero_not_mem (has : image.HasRawName index raw) : 0 ∉ raw := by
  rcases has with ⟨_, _, _, _, _, _, _, _, least, rfl⟩
  exact zero_not_mem_of_isLeast least

theorem HasRawName.exists_names (has : image.HasRawName index raw) :
    ∃ names, image.nameTable = .ok names := by
  rcases has with ⟨names, _, _, named, _⟩
  exact ⟨names, named⟩

theorem HasRawName.exists_header (has : image.HasRawName index raw) :
    ∃ header, image.sectionHeader index = .ok header := by
  rcases has with ⟨_, _, header, _, _, _, read, _⟩
  exact ⟨header, read⟩

theorem HasRawName.sectionAt_eq (has : image.HasRawName index raw)
    (named : image.nameTable = .ok names) {header : SectionHeader}
    (read : image.sectionHeader index = .ok header) :
    SectionWalk.sectionAt image.source names index =
      .ok ⟨Utf8.decode raw, header.offset, header.addr, header.size⟩ := by
  rcases has with ⟨names', table, header', named', opened, typed, read', held⟩
  cases Except.ok.inj (named.symm.trans named')
  cases Except.ok.inj (read.symm.trans read')
  have decoded := stringAt_of_some opened typed (nameBytes?_eq_some_iff.mpr held)
  simp only [SectionWalk.sectionAt, source, read, decoded]

theorem HasRawName.exists_section (has : image.HasRawName index raw)
    (named : image.nameTable = .ok names) :
    ∃ entry, SectionWalk.sectionAt image.source names index = .ok entry ∧
      entry.name = Utf8.decode raw := by
  rcases has.exists_header with ⟨header, read⟩
  exact ⟨_, has.sectionAt_eq named read, rfl⟩

theorem hasRawName_of_sectionAt {entry : Section} (named : image.nameTable = .ok names)
    (found : SectionWalk.sectionAt image.source names index = .ok entry) :
    ∃ raw header, image.HasRawName index raw ∧ image.sectionHeader index = .ok header ∧
      entry = ⟨Utf8.decode raw, header.offset, header.addr, header.size⟩ := by
  rcases Source.hasSection_of_sectionAt found with ⟨header, read, decoded, offset, addr, size⟩
  rcases exists_table_of_stringAt decoded with ⟨table, raw, opened, typed, held, text⟩
  refine ⟨raw, header, ?_, read, ?_⟩
  · exact ⟨names, table, header, named, opened, typed, read, nameBytes?_eq_some_iff.mp held⟩
  · cases entry
    rw [Section.mk.injEq]
    exact ⟨text.symm, offset, addr, size⟩

end Image

namespace SectionWalk

/-- The walk comes to this section of that name, past sections of other names only. -/
structure Reaches (walk : SectionWalk) (name : String) (index : Nat) (entry : Section) : Prop where
  behind : walk.index ≤ index
  inside : index < walk.count
  found : sectionAt walk.source walk.names index = .ok entry
  named : entry.name = name
  passed : ∀ earlier, walk.index ≤ earlier → earlier < index →
    ∃ other, sectionAt walk.source walk.names earlier = .ok other ∧ other.name ≠ name

variable {walk : SectionWalk} {name : String} {index : Nat} {entry first : Section}

theorem Reaches.read (reaches : walk.Reaches name index entry) :
    ∃ other, sectionAt walk.source walk.names walk.index = .ok other ∧
      (other.name = name → other = entry) := by
  rcases Nat.eq_or_lt_of_le reaches.behind with here | later
  · exact ⟨entry, here ▸ reaches.found, fun _ => rfl⟩
  · rcases reaches.passed walk.index le_rfl later with ⟨other, read, different⟩
    exact ⟨other, read, fun same => absurd same different⟩

theorem reaches_next_iff (here : sectionAt walk.source walk.names walk.index = .ok first)
    (different : first.name ≠ name) :
    Reaches { walk with index := walk.index + 1 } name index entry ↔
      walk.Reaches name index entry := by
  constructor
  · intro reaches
    refine ⟨Nat.le_of_succ_le reaches.behind, reaches.inside, reaches.found, reaches.named, ?_⟩
    intro earlier after before
    rcases Nat.eq_or_lt_of_le after with rfl | later
    · exact ⟨first, here, different⟩
    · exact reaches.passed earlier later before
  · intro reaches
    refine ⟨?_, reaches.inside, reaches.found, reaches.named, ?_⟩
    · apply Nat.lt_of_le_of_ne reaches.behind
      rintro rfl
      have same : first = entry := Except.ok.inj (here.symm.trans reaches.found)
      exact different (same ▸ reaches.named)
    · intro earlier after
      exact reaches.passed earlier (Nat.le_of_succ_le after)

theorem firstNamed_eq_some_iff (walk : SectionWalk) :
    firstNamed name walk.toList = .ok (some entry) ↔ ∃ index, walk.Reaches name index entry := by
  generalize measure : walk.remaining = remaining
  -- The induction is on what remains of the walk.
  induction remaining generalizing walk with
  | zero =>
      have ended : walk.count ≤ walk.index := Nat.le_of_sub_eq_zero measure
      rw [toList_of_ended ended]
      simp only [firstNamed, Except.ok.injEq, reduceCtorEq, false_iff]
      intro reached
      rcases reached with ⟨index, reaches⟩
      exact absurd (Nat.lt_of_le_of_lt reaches.behind reaches.inside) (Nat.not_lt.mpr ended)
  | succ remaining ih =>
      simp only [SectionWalk.remaining] at measure
      have inside : walk.index < walk.count := by omega
      cases here : sectionAt walk.source walk.names walk.index with
      | error error =>
          rw [toList_of_error inside here]
          simp only [firstNamed, reduceCtorEq, false_iff]
          intro reached
          rcases reached with ⟨index, reaches⟩
          rcases reaches.read with ⟨other, read, _⟩
          rw [here] at read
          cases read
      | ok first =>
          rw [toList_of_ok inside here, firstNamed]
          by_cases named : first.name = name
          · rw [if_pos named, Except.ok.injEq, Option.some.injEq]
            constructor
            · rintro rfl
              exact ⟨walk.index, le_rfl, inside, here, named, by omega⟩
            · intro reached
              rcases reached with ⟨index, reaches⟩
              rcases reaches.read with ⟨other, read, same⟩
              rw [here, Except.ok.injEq] at read
              subst read
              exact same named
          · have less : ({ walk with index := walk.index + 1 } : SectionWalk).remaining =
                remaining := by
              simp only [SectionWalk.remaining]
              omega
            rw [if_neg named, ih _ less]
            simp only [reaches_next_iff here named]

theorem exists_failed_of_firstNamed {error : QueryError}
    (failed : firstNamed name walk.toList = .error error) :
    ∃ index, walk.index ≤ index ∧ sectionAt walk.source walk.names index = .error error := by
  obtain ⟨rest, others, _, items⟩ : ∃ rest, Passes name walk.toList (.error error :: rest) := by
    cases firstNamed_eq_iff.mp failed with
    | failed passes => exact ⟨_, passes⟩
  obtain ⟨entries, _, ending⟩ := walk.toList_spec
  have member : .error error ∈ walk.toList := by simp [items]
  rcases ending with ⟨whole, _⟩ | ⟨last, whole, _, stopped⟩
  · simp [whole] at member
  · simp only [whole, List.mem_append, List.mem_map, reduceCtorEq, and_false, exists_false,
      List.mem_singleton, Except.error.injEq, false_or] at member
    exact ⟨_, Nat.le_add_right _ _, by rw [stopped, member]⟩

theorem step_of_sectionAt {source : Source} {names : Nat} {error : QueryError}
    (failed : sectionAt source names index = .error error) :
    ∃ step cause, error = .sectionScan step cause ∧
      (step = .header index ∨ step = .name index) := by
  rw [sectionAt] at failed
  split at failed
  next cause _ => exact ⟨_, cause, (Except.error.inj failed).symm, Or.inl rfl⟩
  next =>
    split at failed
    next cause _ => exact ⟨_, cause, (Except.error.inj failed).symm, Or.inr rfl⟩
    next => cases failed

theorem step_of_start {source : Source} {error : QueryError}
    (refused : start source = .error error) :
    ∃ step cause, error = .sectionScan step cause ∧ (step = .nameTable ∨ step = .sectionCount) := by
  rw [start] at refused
  split at refused
  next cause _ => exact ⟨_, cause, (Except.error.inj refused).symm, Or.inl rfl⟩
  next =>
    split at refused
    next cause _ => exact ⟨_, cause, (Except.error.inj refused).symm, Or.inr rfl⟩
    next => cases refused

end SectionWalk

namespace Session

variable {session : Session} {image : Image} {name : String}

theorem findSection_without_source (session : Session) (name : String) :
    (∃ source, session.source = .ok source) ∨
      (session.findSection name).value = .error .notElf ∨
      (session.findSection name).value = .error .closed := by
  cases session with
  | elf source width ident table => exact Or.inl ⟨source, rfl⟩
  | inert => exact Or.inr (Or.inl (findSection_of_error rfl name))
  | closed width => exact Or.inr (Or.inr (findSection_of_error rfl name))

theorem findSection_eq_some_iff {entry : Section} (opened : session.source = .ok image.source) :
    (session.findSection name).value = .ok (some entry) ↔
      ∃ index raw header, 1 ≤ index ∧ image.HasRawName index raw ∧ Utf8.decode raw = name ∧
        image.sectionHeader index = .ok header ∧
        entry = ⟨name, header.offset, header.addr, header.size⟩ ∧
        ∀ earlier, 1 ≤ earlier → earlier < index →
          ∃ other, image.HasRawName earlier other ∧ Utf8.decode other ≠ name := by
  have sections := sections_of_source opened
  constructor
  · intro found
    cases started : session.sections with
    | error refusal =>
        rw [findSection_of_error started] at found
        cases found
    | ok walk =>
        rw [findSection_of_walk started, walk.firstNamed_eq_some_iff] at found
        rw [sections, SectionWalk.start_eq_ok_iff] at started
        rcases started with ⟨names, count, named, _, rfl⟩
        rcases found with ⟨index, behind, _, found, same, passed⟩
        rcases Image.hasRawName_of_sectionAt named found with ⟨raw, header, has, read, rfl⟩
        refine ⟨index, raw, header, behind, has, same, read, by rw [← same], ?_⟩
        intro earlier after before
        rcases passed earlier after before with ⟨other, found, different⟩
        rcases Image.hasRawName_of_sectionAt named found with ⟨raw, _, has, _, rfl⟩
        exact ⟨raw, has, different⟩
  · intro matching
    rcases matching with ⟨index, raw, header, behind, has, same, read, rfl, passed⟩
    rcases Image.exists_count_of_sectionHeader read with ⟨count, counted, inside⟩
    rcases has.exists_names with ⟨names, named⟩
    have started := sections.trans
      (SectionWalk.start_eq_ok_iff.mpr ⟨names, count, named, counted, rfl⟩)
    rw [findSection_of_walk started, SectionWalk.firstNamed_eq_some_iff]
    refine ⟨index, behind, inside, ?_, rfl, ?_⟩
    · rw [← same]
      exact has.sectionAt_eq named read
    · intro earlier after before
      rcases passed earlier after before with ⟨other, also, different⟩
      rcases also.exists_section named with ⟨entry, found, name⟩
      exact ⟨entry, found, name.symm ▸ different⟩

theorem findSection_eq_some_iff_isLeast {entry : Section}
    (opened : session.source = .ok image.source) (plain : Utf8.replacement ∉ name.toList) :
    (session.findSection name).value = .ok (some entry) ↔
      ∃ index header,
        IsLeast {index | 1 ≤ index ∧ image.HasRawName index (Utf8.encode name)} index ∧
        (∀ earlier, 1 ≤ earlier → earlier < index → ∃ raw, image.HasRawName earlier raw) ∧
        image.sectionHeader index = .ok header ∧
        entry = ⟨name, header.offset, header.addr, header.size⟩ := by
  rw [findSection_eq_some_iff opened]
  constructor
  · intro matching
    rcases matching with ⟨index, raw, header, behind, has, same, read, shown, passed⟩
    rw [Utf8.decode_eq_iff plain] at same
    subst same
    refine ⟨index, header, ⟨⟨behind, has⟩, ?_⟩, ?_, read, shown⟩
    · intro earlier matching
      by_contra before
      rcases passed earlier matching.1 (Nat.lt_of_not_le before) with ⟨other, holds, different⟩
      rw [← matching.2.unique holds] at different
      exact different (Utf8.decode_encode name)
    · intro earlier after before
      rcases passed earlier after before with ⟨other, holds, _⟩
      exact ⟨other, holds⟩
  · intro matching
    rcases matching with ⟨index, header, ⟨⟨behind, has⟩, least⟩, passed, read, shown⟩
    refine ⟨index, _, header, behind, has, Utf8.decode_encode name, read, shown, ?_⟩
    intro earlier after before
    rcases passed earlier after before with ⟨other, holds⟩
    refine ⟨other, holds, ?_⟩
    intro same
    rw [Utf8.decode_eq_iff plain] at same
    subst same
    exact absurd (least ⟨after, holds⟩) (Nat.not_le.mpr before)

theorem step_of_findSection {index : Nat} {raw : List UInt8} {step : ScanStep} {cause : ReadError}
    (opened : session.source = .ok image.source) (has : image.HasRawName index raw)
    (failed : (session.findSection name).value = .error (.sectionScan step cause)) :
    step ≠ .header index ∧ step ≠ .name index := by
  cases started : session.sections with
  | error refusal =>
      rw [findSection_of_error started, Except.error.injEq] at failed
      subst failed
      rw [sections_of_source opened] at started
      rcases SectionWalk.step_of_start started with ⟨_, _, same, which⟩
      cases same
      rcases which with rfl | rfl <;> simp
  | ok walk =>
      rw [findSection_of_walk started] at failed
      rw [sections_of_source opened, SectionWalk.start_eq_ok_iff] at started
      rcases started with ⟨names, count, named, _, rfl⟩
      rcases SectionWalk.exists_failed_of_firstNamed failed with ⟨other, _, stopped⟩
      rcases SectionWalk.step_of_sectionAt stopped with ⟨_, _, same, which⟩
      cases same
      have apart : other ≠ index := by
        rintro rfl
        rcases has.exists_section named with ⟨_, found, _⟩
        rw [found] at stopped
        cases stopped
      rcases which with rfl | rfl <;> simp [apart]

/-- A search for a text without the replacement character finds the first section whose name is
the encoding of that text, if every name in front of it has an end. A name that is no text is
passed over, and no name holds a zero byte. -/
theorem findSection_by_raw_name
    (image_only : ∀ source, session.source = .ok source → source = image.source)
    (plain : '\uFFFD' ∉ name.toList) :
    let found := (session.findSection name).value
    (∀ entry, found = .ok (some entry) ↔ session.source = .ok image.source ∧
      ∃ index header,
        IsLeast {index | 1 ≤ index ∧ image.HasRawName index (Utf8.encode name)} index ∧
        (∀ earlier, 1 ≤ earlier → earlier < index → ∃ raw, image.HasRawName earlier raw) ∧
        image.sectionHeader index = .ok header ∧
        entry = ⟨name, header.offset, header.addr, header.size⟩) ∧
    (∀ index raw, image.HasRawName index raw → ¬Utf8.Valid raw →
      (∃ names entry, image.nameTable = .ok names ∧ image.source.HasSection names index entry ∧
        entry.name ≠ name) ∧
      ∀ step cause, found = .error (.sectionScan step cause) →
        step ≠ .header index ∧ step ≠ .name index) ∧
    ('\x00' ∈ name.toList → ∀ entry, found ≠ .ok (some entry)) := by
  intro found
  have opened (answered : found ≠ .error .notElf ∧ found ≠ .error .closed) :
      session.source = .ok image.source := by
    rcases session.findSection_without_source name with ⟨source, opened⟩ | inert | closed
    · rw [opened, image_only source opened]
    · exact absurd inert answered.1
    · exact absurd closed answered.2
  have first (entry) (succeeds : found = .ok (some entry)) :=
    (findSection_eq_some_iff_isLeast (opened (by simp [succeeds])) plain).mp succeeds
  refine ⟨?first, ?invalid, ?terminated⟩
  case first =>
    intro entry
    constructor
    · intro succeeds
      exact ⟨opened (by simp [succeeds]), first entry succeeds⟩
    · intro reached
      exact (findSection_eq_some_iff_isLeast reached.1 plain).mpr reached.2
  case invalid =>
    intro index raw has invalid
    constructor
    · rcases has.exists_names with ⟨names, named⟩
      rcases has.exists_section named with ⟨entry, found, decoded⟩
      refine ⟨names, entry, named, Source.hasSection_of_sectionAt found, ?_⟩
      intro same
      rw [decoded, Utf8.decode_eq_iff plain] at same
      exact invalid ⟨name, same.symm⟩
    · intro step cause failed
      exact step_of_findSection (opened (by simp [failed])) has failed
  case terminated =>
    intro zero entry succeeds
    rcases first entry succeeds with ⟨index, _, ⟨⟨_, has⟩, _⟩, _⟩
    exact has.zero_not_mem (Utf8.zero_mem_encode zero)

def spoiledHeader : FileHeader := ⟨.bits64, .little, 2, 62, 1, 0, 0, 64, 0, 64, 0, 0, 64, 4, 3⟩

def spoiledBytes : Array UInt8 :=
  (spoiledHeader.written 1 (List.replicate 9 0) ++
    SectionHeader.written .little ⟨0, 0, 0, 0, 0, 0, 0, 0, 0, 0⟩ .bits64 ++
    SectionHeader.written .little ⟨1, 1, 0, 0x400000, 0x40, 0x10, 0, 0, 1, 0⟩ .bits64 ++
    SectionHeader.written .little ⟨5, 1, 0, 0x401000, 0x80, 0x20, 0, 0, 1, 0⟩ .bits64 ++
    SectionHeader.written .little ⟨0, 3, 0, 0, 320, 11, 0, 0, 1, 0⟩ .bits64 ++
    [0] ++ [0x2e, 0x74, 0xff, 0] ++ Utf8.encode ".text" ++ [0]).toArray

theorem findSection_by_raw_name_spoiled :
    let image := (Image.ofBytes spoiledBytes).value
    let session := elf image.source .bits64 image.ident .empty
    (session.findSection ".text").value = .ok (some ⟨".text", 0x80, 0x401000, 0x20⟩) ∧
      (∀ step cause, (session.findSection ".tex").value = .error (.sectionScan step cause) →
        step ≠ .name 1) ∧
      ∀ entry, (session.findSection ".text\x00").value ≠ .ok (some entry) := by
  intro image session
  have image_only : ∀ source, session.source = .ok source → source = image.source := by
    rintro _ ⟨⟩
    rfl
  have named : image.nameTable = .ok 3 := by decide +kernel
  have table : image.sectionHeader 3 = .ok ⟨0, 3, 0, 0, 320, 11, 0, 0, 1, 0⟩ := by decide +kernel
  have first : image.sectionHeader 1 =
      .ok ⟨1, 1, 0, 0x400000, 0x40, 0x10, 0, 0, 1, 0⟩ := by decide +kernel
  have second : image.sectionHeader 2 =
      .ok ⟨5, 1, 0, 0x401000, 0x80, 0x20, 0, 0, 1, 0⟩ := by decide +kernel
  have spoiled : image.HasRawName 1 [0x2e, 0x74, 0xff] :=
    ⟨3, _, _, named, table, rfl, first, Image.nameBytes?_eq_some_iff.mp (by decide +kernel)⟩
  have plain : image.HasRawName 2 (Utf8.encode ".text") :=
    ⟨3, _, _, named, table, rfl, second, Image.nameBytes?_eq_some_iff.mp (by decide +kernel)⟩
  have least : IsLeast {index | 1 ≤ index ∧ image.HasRawName index (Utf8.encode ".text")} 2 := by
    refine ⟨⟨by decide, plain⟩, ?_⟩
    rintro index ⟨behind, has⟩
    by_contra before
    have here : index = 1 := by omega
    subst here
    exact absurd (has.unique spoiled) (by decide +kernel)
  refine ⟨?_, ?_, ?_⟩
  · apply ((findSection_by_raw_name image_only (by decide)).1 _).mpr
    refine ⟨rfl, 2, _, least, ?_, second, rfl⟩
    intro earlier after before
    have here : earlier = 1 := by omega
    exact ⟨_, here ▸ spoiled⟩
  · intro step cause failed
    exact (((findSection_by_raw_name image_only (by decide)).2.1 1 _ spoiled
      (by decide +kernel)).2 step cause failed).2
  · exact (findSection_by_raw_name image_only (by decide)).2.2 (by decide)

end Session

end ElfTables

import ElfTables.Proofs.SectionWalks

/-!
What a walk over the sections of a source yields, call by call: the sections in front of the first
that cannot be read, one error that says which read failed, and then nothing however often it is
asked (`Session.sections_yield`).
-/
namespace ElfTables

namespace SectionWalk

def advance (walk : SectionWalk) : Option (Except QueryError Section) × SectionWalk :=
  match walk.next? with
  | some (item, rest) => (some item, rest)
  | none => (none, walk)

def advanced (walk : SectionWalk) : Nat → SectionWalk
  | 0 => walk
  | calls + 1 => walk.advance.2.advanced calls

def answer (walk : SectionWalk) (calls : Nat) : Option (Except QueryError Section) :=
  (walk.advanced calls).advance.1

variable (walk : SectionWalk)

theorem fst_advance : walk.advance.1 = walk.toList.head? := by
  rcases step : walk.next? with _ | ⟨item, rest⟩
  · simp [advance, step, toList_of_none step]
  · simp [advance, step, toList_of_some step]

theorem toList_advance : walk.advance.2.toList = walk.toList.tail := by
  rcases step : walk.next? with _ | ⟨item, rest⟩
  · simp [advance, step, toList_of_none step]
  · simp [advance, step, toList_of_some step]

theorem toList_advanced (calls : Nat) : (walk.advanced calls).toList = walk.toList.drop calls := by
  induction calls generalizing walk with
  | zero => rfl
  | succ calls ih => rw [advanced, ih, toList_advance, List.drop_tail]

theorem answer_eq_getElem? (calls : Nat) : walk.answer calls = walk.toList[calls]? := by
  calc
    _ = (walk.toList.drop calls).head? := by rw [answer, fst_advance, toList_advanced]
    _ = walk.toList[calls]? := List.head?_drop

theorem answer_of_toList {walk : SectionWalk} {items : List (Except QueryError Section)}
    (same : walk.toList = items) (calls : Nat) : walk.answer calls = items[calls]? := by
  rw [answer_eq_getElem?, same]

end SectionWalk

def QueryError.FailedWhile (error : QueryError) (doing : String) (cause : ReadError) : Prop :=
  ∃ step, error = .sectionScan step cause ∧ step.message = doing

namespace Source

def HasSection (source : Source) (names index : Nat) (entry : Section) : Prop :=
  ∃ header, source.sectionHeader index = .ok header ∧
    source.stringAt names header.name.toNat = .ok entry.name ∧
    entry.fileOffset = header.offset ∧ entry.vaddr = header.addr ∧ entry.size = header.size

def HasSections (source : Source) (names start : Nat) (entries : List Section) : Prop :=
  ∀ index (inside : index < entries.length),
    source.HasSection names (start + index) entries[index]

/-- The section at `index` cannot be read. Its name is looked for once its header is there. -/
inductive LacksSection (source : Source) (names index : Nat) : String → ReadError → Prop
  | header {cause : ReadError} (failed : source.sectionHeader index = .error cause) :
      LacksSection source names index s!"reading section {index}" cause
  | name {header : SectionHeader} {cause : ReadError}
      (read : source.sectionHeader index = .ok header)
      (failed : source.stringAt names header.name.toNat = .error cause) :
      LacksSection source names index s!"resolving the name of section {index}" cause

/-- The indices behind the null section and below the count of which a section is lacking. -/
def lacking (source : Source) (names count : Nat) : Set Nat :=
  {index | index ∈ Set.Ico 1 count ∧ ∃ doing cause, source.LacksSection names index doing cause}

variable {source : Source} {names index : Nat}

theorem hasSection_of_sectionAt {entry : Section}
    (found : SectionWalk.sectionAt source names index = .ok entry) :
    source.HasSection names index entry := by
  cases read : source.sectionHeader index with
  | error cause =>
      simp only [SectionWalk.sectionAt, read] at found
      cases found
  | ok header =>
      cases named : source.stringAt names header.name.toNat with
      | error cause =>
          simp only [SectionWalk.sectionAt, read, named] at found
          cases found
      | ok name =>
          simp only [SectionWalk.sectionAt, read, named] at found
          cases found
          exact ⟨header, read, named, rfl, rfl, rfl⟩

theorem HasSection.sectionAt_eq {entry : Section} (has : source.HasSection names index entry) :
    SectionWalk.sectionAt source names index = .ok entry := by
  obtain ⟨header, read, named, offset, vaddr, size⟩ := has
  simp only [SectionWalk.sectionAt, read, named, ← offset, ← vaddr, ← size]

theorem LacksSection.sectionAt_eq {doing : String} {cause : ReadError}
    (lacks : source.LacksSection names index doing cause) :
    ∃ error, SectionWalk.sectionAt source names index = .error error ∧
      error.FailedWhile doing cause := by
  cases lacks with
  | header failed =>
      refine ⟨.sectionScan (.header index) cause, ?_, _, rfl, rfl⟩
      simp only [SectionWalk.sectionAt, failed]
  | name read failed =>
      refine ⟨.sectionScan (.name index) cause, ?_, _, rfl, rfl⟩
      simp only [SectionWalk.sectionAt, read, failed]

theorem lacksSection_of_sectionAt {error : QueryError}
    (failed : SectionWalk.sectionAt source names index = .error error) :
    ∃ doing cause, source.LacksSection names index doing cause := by
  cases read : source.sectionHeader index with
  | error cause => exact ⟨_, cause, .header read⟩
  | ok header =>
      cases named : source.stringAt names header.name.toNat with
      | error cause => exact ⟨_, cause, .name read named⟩
      | ok name =>
          simp only [SectionWalk.sectionAt, read, named] at failed
          cases failed

end Source

namespace SectionWalk

variable {source : Source} {names count : Nat} {cause : ReadError}

theorem exists_of_mem_toList {walk : SectionWalk} {entry : Section}
    (member : .ok entry ∈ walk.toList) :
    ∃ index, walk.source.HasSection walk.names index entry := by
  obtain ⟨entries, found, ending⟩ := walk.toList_spec
  have listed : entry ∈ entries := by
    rcases ending with ⟨items, _⟩ | ⟨error, items, _⟩
    · simpa [items] using member
    · simpa [items] using member
  obtain ⟨index, inside, rfl⟩ := List.mem_iff_getElem.mp listed
  exact ⟨_, Source.hasSection_of_sectionAt (found index inside)⟩

theorem start_of_unnamed (unnamed : source.nameTable = .error cause) :
    ∃ error, start source = .error error ∧
      error.FailedWhile "resolving the section name table" cause := by
  refine ⟨.sectionScan .nameTable cause, ?_, _, rfl, rfl⟩
  simp only [start, unnamed]

theorem start_of_uncounted (named : source.nameTable = .ok names)
    (uncounted : source.sectionCount = .error cause) :
    ∃ error, start source = .error error ∧
      error.FailedWhile "reading the section count" cause := by
  refine ⟨.sectionScan .sectionCount cause, ?_, _, rfl, rfl⟩
  simp only [start, named, uncounted]

theorem toList_of_lacking {stop : Nat} {doing : String}
    (first : IsLeast (source.lacking names count) stop)
    (lacks : source.LacksSection names stop doing cause) :
    ∃ entries error, entries.length = stop - 1 ∧ source.HasSections names 1 entries ∧
      error.FailedWhile doing cause ∧
      toList ⟨source, names, 1, count⟩ = entries.map Except.ok ++ [.error error] := by
  rcases lacks.sectionAt_eq with ⟨error, failed, reported⟩
  rcases first with ⟨⟨⟨behind, below⟩, _⟩, least⟩
  rcases toList_spec ⟨source, names, 1, count⟩ with ⟨entries, found, ending⟩
  -- The walk stops no later than the lacking section, and no earlier since that one is the first.
  have late : entries.length ≤ stop - 1 := by
    by_contra beyond
    have read := found (stop - 1) (Nat.lt_of_not_le beyond)
    have here : 1 + (stop - 1) = stop := by omega
    simp only [here, failed] at read
    cases read
  rcases ending with ⟨_, full⟩ | ⟨other, items, short, stopped⟩
  · simp only [remaining] at full
    omega
  · have early : stop ≤ 1 + entries.length := by
      apply least
      simp only [remaining] at short
      exact ⟨⟨by omega, by omega⟩, Source.lacksSection_of_sectionAt stopped⟩
    have here : 1 + entries.length = stop := by omega
    simp only [here, failed, Except.error.injEq] at stopped
    subst stopped
    refine ⟨entries, error, by omega, ?_, reported, items⟩
    intro index inside
    exact Source.hasSection_of_sectionAt (found index inside)

theorem toList_of_nothing_lacking (complete : source.lacking names count = ∅) :
    ∃ entries, entries.length = count - 1 ∧ source.HasSections names 1 entries ∧
      toList ⟨source, names, 1, count⟩ = entries.map Except.ok := by
  rcases toList_spec ⟨source, names, 1, count⟩ with ⟨entries, found, ending⟩
  rcases ending with ⟨items, full⟩ | ⟨error, _, short, stopped⟩
  · refine ⟨entries, full, ?_, items⟩
    intro index inside
    exact Source.hasSection_of_sectionAt (found index inside)
  · have lacks : 1 + entries.length ∈ source.lacking names count := by
      simp only [remaining] at short
      exact ⟨⟨by omega, by omega⟩, Source.lacksSection_of_sectionAt stopped⟩
    rw [complete] at lacks
    cases lacks

end SectionWalk

namespace Session

/-- What the sections of a source come to: a walk does not start without the name table and then
the count; else each call gives the next section up to the first that cannot be read, then the
error of that one, and nothing behind it. -/
theorem sections_yield (source : Source) (width : AddressWidth) (ident : Option (List UInt8))
    (table : SegmentTable) :
    let started := (elf source width ident table).sections
    (∀ cause, source.nameTable = .error cause →
      ∃ error, started = .error error ∧
        error.FailedWhile "resolving the section name table" cause) ∧
    (∀ names cause, source.nameTable = .ok names → source.sectionCount = .error cause →
      ∃ error, started = .error error ∧ error.FailedWhile "reading the section count" cause) ∧
    ∀ names count, source.nameTable = .ok names → source.sectionCount = .ok count →
      ∃ walk, started = .ok walk ∧
        (∀ stop doing cause, IsLeast (source.lacking names count) stop →
          source.LacksSection names stop doing cause →
          ∃ entries error, entries.length = stop - 1 ∧ source.HasSections names 1 entries ∧
            error.FailedWhile doing cause ∧
            ∀ calls, walk.answer calls = (entries.map Except.ok ++ [.error error])[calls]?) ∧
        (source.lacking names count = ∅ →
          ∃ entries, entries.length = count - 1 ∧ source.HasSections names 1 entries ∧
            ∀ calls, walk.answer calls = (entries.map Except.ok)[calls]?) ∧
        (count ≤ 1 → ∀ calls, walk.answer calls = none) := by
  intro started
  have starts : started = SectionWalk.start source := rfl
  rw [starts]
  refine ⟨?unnamed, ?uncounted, ?walk⟩
  case unnamed =>
    intro cause unnamed
    exact SectionWalk.start_of_unnamed unnamed
  case uncounted =>
    intro names cause named uncounted
    exact SectionWalk.start_of_uncounted named uncounted
  case walk =>
    intro names count named counted
    refine ⟨⟨source, names, 1, count⟩, ?_, ?_, ?_, ?_⟩
    · exact SectionWalk.start_eq_ok_iff.mpr ⟨names, count, named, counted, rfl⟩
    · intro stop doing cause first lacks
      obtain ⟨entries, error, length, sections, reported, items⟩ :=
        SectionWalk.toList_of_lacking first lacks
      exact ⟨entries, error, length, sections, reported, SectionWalk.answer_of_toList items⟩
    · intro complete
      rcases SectionWalk.toList_of_nothing_lacking complete with ⟨entries, length, sections, items⟩
      exact ⟨entries, length, sections, SectionWalk.answer_of_toList items⟩
    · intro few
      exact SectionWalk.answer_of_toList (SectionWalk.toList_of_ended few)

def partlyNamed (nameTable sectionCount : Except ReadError Nat) : Source where
  setup := .ok ()
  kind := .elf
  width := .ok .bits64
  ident := none
  segmentCount := .ok 0
  segmentHeader index := .error (.badOffset index)
  sectionCount := sectionCount
  sectionHeader index :=
    if index < 4 then .ok ⟨UInt64.ofNat index, 1, 0, 0x400000, 0x1000, 0x80, 0, 0, 16, 0⟩
    else .error (.badOffset index)
  nameTable := nameTable
  stringAt _ offset := if offset < 3 then .ok ".text" else .error (.badOffset offset)

theorem three_le_of_lacking {nameTable sectionCount : Except ReadError Nat}
    {names count index : Nat}
    (member : index ∈ (partlyNamed nameTable sectionCount).lacking names count) : 3 ≤ index := by
  rcases member with ⟨_, doing, cause, lacks⟩
  by_contra few
  have small : index < 3 := Nat.lt_of_not_le few
  cases lacks with
  | header failed => simp [partlyNamed, Nat.lt_succ_of_lt small] at failed
  | name read failed =>
      simp only [partlyNamed, Nat.lt_succ_of_lt small, if_true, Except.ok.injEq] at read
      subst read
      have value : (UInt64.ofNat index).toNat = index :=
        UInt64.toNat_ofNat_of_lt' (Nat.lt_trans small (by decide))
      simp [partlyNamed, value, small] at failed

theorem sections_yield_partlyNamed :
    let sections nameTable sectionCount :=
      (elf (partlyNamed nameTable sectionCount) .bits64 none .empty).sections
    (∃ error, sections (.error (.badOffset 7)) (.ok 9) = .error error ∧
      error.FailedWhile "resolving the section name table" (.badOffset 7)) ∧
    (∃ error, sections (.ok 5) (.error (.badOffset 8)) = .error error ∧
      error.FailedWhile "reading the section count" (.badOffset 8)) ∧
    (∃ walk, sections (.ok 5) (.ok (2 ^ 64 - 1)) = .ok walk ∧
      ∃ (entries : List Section) (error : QueryError), entries.length = 2 ∧
        error.FailedWhile "resolving the name of section 3" (.badOffset 3) ∧
        ∀ calls, walk.answer calls = (entries.map Except.ok ++ [.error error])[calls]?) ∧
    (∃ walk, sections (.ok 5) (.ok 3) = .ok walk ∧
      ∃ entries : List Section, entries.length = 2 ∧
        ∀ calls, walk.answer calls = (entries.map Except.ok)[calls]?) ∧
    ∃ walk, sections (.ok 5) (.ok 1) = .ok walk ∧ ∀ calls, walk.answer calls = none := by
  intro sections
  have yields nameTable sectionCount :=
    sections_yield (partlyNamed nameTable sectionCount) .bits64 none .empty
  have nameless : (partlyNamed (.ok 5) (.ok (2 ^ 64 - 1))).LacksSection 5 3
      "resolving the name of section 3" (.badOffset 3) := .name rfl rfl
  have first : IsLeast ((partlyNamed (.ok 5) (.ok (2 ^ 64 - 1))).lacking 5 (2 ^ 64 - 1)) 3 :=
    ⟨⟨⟨by decide, by decide⟩, _, _, nameless⟩, fun _ member => three_le_of_lacking member⟩
  have complete : (partlyNamed (.ok 5) (.ok 3)).lacking 5 3 = ∅ := by
    rw [Set.eq_empty_iff_forall_notMem]
    intro index member
    exact absurd member.1.2 (Nat.not_lt.mpr (three_le_of_lacking member))
  refine ⟨(yields _ _).1 _ rfl, (yields _ _).2.1 _ _ rfl rfl, ?_, ?_, ?_⟩
  · obtain ⟨walk, started, stops, _⟩ := (yields _ _).2.2 5 (2 ^ 64 - 1) rfl rfl
    rcases stops 3 _ _ first nameless with ⟨entries, error, length, _, reported, answers⟩
    exact ⟨walk, started, entries, error, length, reported, answers⟩
  · obtain ⟨walk, started, _, ends, _⟩ := (yields _ _).2.2 5 3 rfl rfl
    rcases ends complete with ⟨entries, length, _, answers⟩
    exact ⟨walk, started, entries, length, answers⟩
  · obtain ⟨walk, started, _, _, empty⟩ := (yields _ _).2.2 5 1 rfl rfl
    exact ⟨walk, started, empty (by decide)⟩

end Session

end ElfTables

import ElfTables.Proofs.SectionScans
import ElfTables.Proofs.SegmentDependence
import ElfTables.Proofs.SessionHistory

/-!
Sessions whose class or identification bytes cannot be read. They go the same way through every
request as a session that has both, so nothing that is asked of the tables is lost
(`Session.class_changes_display_only`).
-/
namespace ElfTables

/-- The sources give the same answers to everything but the class and the identification bytes. -/
structure Source.AgreeButClass (source other : Source) : Prop where
  setup : source.setup = other.setup
  kind : source.kind = other.kind
  segmentCount : source.segmentCount = other.segmentCount
  segmentHeader : ∀ index, source.segmentHeader index = other.segmentHeader index
  sectionCount : source.sectionCount = other.sectionCount
  sectionHeader : ∀ index, source.sectionHeader index = other.sectionHeader index
  nameTable : source.nameTable = other.nameTable
  stringAt : ∀ table offset, source.stringAt table offset = other.stringAt table offset

namespace SectionWalk

def reading (walk : SectionWalk) (other : Source) : SectionWalk := { walk with source := other }

variable {source other : Source}

theorem sectionAt_congr (agree : source.AgreeButClass other) (names index : Nat) :
    sectionAt other names index = sectionAt source names index := by
  simp only [sectionAt, agree.sectionHeader, agree.stringAt]

theorem start_reading (agree : source.AgreeButClass other) :
    start other = (start source).map fun walk => walk.reading other := by
  rw [start, start, agree.nameTable, agree.sectionCount]
  cases other.nameTable with
  | error cause => rfl
  | ok names => cases other.sectionCount <;> rfl

variable {walk : SectionWalk}

theorem source_advance (walk : SectionWalk) : walk.advance.2.source = walk.source := by
  by_cases inside : walk.index < walk.count
  · cases found : sectionAt walk.source walk.names walk.index with
    | ok entry => rw [advance, next?_of_ok inside found]
    | error error => rw [advance, next?_of_error inside found]
  · rw [advance, next?_of_ended (Nat.le_of_not_lt inside)]

theorem advance_reading (agree : walk.source.AgreeButClass other) :
    (walk.reading other).advance = (walk.advance.1, walk.advance.2.reading other) := by
  by_cases inside : walk.index < walk.count
  · cases found : sectionAt walk.source walk.names walk.index with
    | ok entry =>
        simp only [advance, next?, reading, inside, if_true, sectionAt_congr agree, found]
    | error error =>
        simp only [advance, next?, reading, inside, if_true, sectionAt_congr agree, found]
  · simp only [advance, next?, reading, inside, if_false]

theorem advanced_reading (agree : walk.source.AgreeButClass other) (calls : Nat) :
    (walk.reading other).advanced calls = (walk.advanced calls).reading other ∧
      (walk.advanced calls).source = walk.source := by
  induction calls generalizing walk with
  | zero => exact ⟨rfl, rfl⟩
  | succ calls ih =>
      rw [advanced, advanced, advance_reading agree]
      have stays := source_advance walk
      have behind : walk.advance.2.source.AgreeButClass other := stays.symm ▸ agree
      rcases ih behind with ⟨same, kept⟩
      exact ⟨same, kept.trans stays⟩

theorem answer_reading (agree : walk.source.AgreeButClass other) (calls : Nat) :
    (walk.reading other).answer calls = walk.answer calls := by
  rcases advanced_reading agree calls with ⟨same, stays⟩
  rw [answer, answer, same, advance_reading (stays.symm ▸ agree)]

end SectionWalk

namespace Session

inductive AgreeButClass : Session → Session → Prop
  | elf {source other : Source} (agree : source.AgreeButClass other) (width wide : AddressWidth)
      (ident known : Option (List UInt8)) (table : SegmentTable) :
      AgreeButClass (.elf source width ident table) (.elf other wide known table)
  | inert : AgreeButClass .inert .inert
  | closed (width wide : AddressWidth) : AgreeButClass (.closed width) (.closed wide)

/-- The walks that two sessions start: for both the same error, or walks that give the same bounds
and answers however far they are taken. -/
inductive SameWalks : Except QueryError SectionWalk → Except QueryError SectionWalk → Prop
  | refused (error : QueryError) : SameWalks (.error error) (.error error)
  | started {walk other : SectionWalk}
      (bounds : ∀ calls, (walk.advanced calls).bounds = (other.advanced calls).bounds)
      (answers : ∀ calls, walk.answer calls = other.answer calls) :
      SameWalks (.ok walk) (.ok other)

namespace SameWalks

variable {walks others : Except QueryError SectionWalk}

theorem items_eq (same : SameWalks walks others) :
    walks.map SectionWalk.toList = others.map SectionWalk.toList := by
  cases same with
  | refused error => rfl
  | @started walk other bounds answers =>
      have items : walk.toList = other.toList := by
        apply List.ext_getElem?
        intro calls
        rw [← SectionWalk.answer_eq_getElem?, ← SectionWalk.answer_eq_getElem?, answers]
      exact congrArg Except.ok items

theorem find?_eq (same : SameWalks walks others) (name : String) :
    (walks.bind fun walk => walk.find? name) = others.bind fun walk => walk.find? name := by
  have items := same.items_eq
  cases same with
  | refused error => rfl
  | @started walk other bounds answers =>
      have same : walk.toList = other.toList := Except.ok.inj items
      rw [Except.bind, Except.bind, walk.find?_eq_firstNamed, other.find?_eq_firstNamed, same]

end SameWalks

variable {session other : Session}

namespace AgreeButClass

theorem isElf_eq (agree : AgreeButClass session other) : session.isElf = other.isElf := by
  cases agree <;> rfl

theorem isClosed_eq (agree : AgreeButClass session other) : session.isClosed = other.isClosed := by
  cases agree <;> rfl

theorem table_eq (agree : AgreeButClass session other) : session.table = other.table := by
  cases agree <;> rfl

theorem available_eq (agree : AgreeButClass session other) :
    (session.source.map fun _ => ()) = other.source.map fun _ => () := by
  cases agree <;> rfl

theorem sameWalks (agree : AgreeButClass session other) :
    SameWalks session.sections other.sections := by
  cases agree with
  | inert => exact .refused _
  | closed width wide => exact .refused _
  | @elf source other agree width wide ident known table =>
      have first : (Session.elf source width ident table).sections = SectionWalk.start source := rfl
      have second : (Session.elf other wide known table).sections = SectionWalk.start other := rfl
      rw [first, second, SectionWalk.start_reading agree]
      cases started : SectionWalk.start source with
      | error error => exact .refused error
      | ok walk =>
          rcases SectionWalk.start_eq_ok_iff.mp started with ⟨names, count, _, _, rfl⟩
          apply SameWalks.started
          · intro calls
            rw [(SectionWalk.advanced_reading agree calls).1]
            rfl
          · intro calls
            exact (SectionWalk.answer_reading agree calls).symm

theorem findSection_eq (agree : AgreeButClass session other) (name : String) :
    (session.findSection name).value = (other.findSection name).value := by
  rw [value_findSection, value_findSection]
  exact agree.sameWalks.find?_eq name

theorem build (agree : AgreeButClass session other) :
    AgreeButClass session.build.value.1 other.build.value.1 ∧
      session.build.value.2 = other.build.value.2 := by
  cases agree with
  | inert => exact ⟨.inert, rfl⟩
  | closed width wide => exact ⟨.closed width wide, rfl⟩
  | @elf source other agree width wide ident known table =>
      have same : SegmentTable.empty.load source = SegmentTable.empty.load other :=
        SegmentTable.load_congr agree.segmentCount agree.segmentHeader .empty
      rw [value_build_elf, value_build_elf, same]
      exact ⟨.elf agree width wide ident known _, rfl⟩

theorem perform (agree : AgreeButClass session other) (request : Request) :
    AgreeButClass (session.perform request).1 (other.perform request).1 ∧
      (session.perform request).2 = (other.perform request).2 := by
  cases request with
  | build =>
      rcases agree.build with ⟨after, outcome⟩
      refine ⟨after, ?_⟩
      simp only [Session.perform, outcome, after.table_eq]
  | close =>
      refine ⟨?_, rfl⟩
      simp only [Session.perform, value_close]
      exact .closed _ _
  | source =>
      refine ⟨agree, ?_⟩
      simp only [Session.perform, agree.available_eq]
  | segments =>
      refine ⟨agree, ?_⟩
      simp only [Session.perform, agree.table_eq]
  | fileOffset address =>
      refine ⟨agree, ?_⟩
      simp only [Session.perform, agree.table_eq]
  | sections =>
      refine ⟨agree, ?_⟩
      simp only [Session.perform, agree.sameWalks.items_eq]
  | findSection name =>
      refine ⟨agree, ?_⟩
      simp only [Session.perform, agree.findSection_eq]
  | findOffset name =>
      refine ⟨agree, ?_⟩
      simp only [Session.perform, findOffset, Logged.value_bind, Logged.value_pure,
        agree.findSection_eq]
  | findSize name =>
      refine ⟨agree, ?_⟩
      simp only [Session.perform, findSize, Logged.value_bind, Logged.value_pure,
        agree.findSection_eq]

theorem run (agree : AgreeButClass session other) (requests : List Request) :
    AgreeButClass (session.run requests).1 (other.run requests).1 ∧
      (session.run requests).2 = (other.run requests).2 := by
  -- The induction is on the requests, over the sessions that the first of them leaves behind.
  induction requests generalizing session other with
  | nil => exact ⟨agree, rfl⟩
  | cons request rest ih =>
      rcases agree.perform request with ⟨after, reply⟩
      rcases ih after with ⟨last, replies⟩
      refine ⟨last, ?_⟩
      rw [Session.run, Session.run, reply, replies]

end AgreeButClass

variable {source also : Source}

theorem ofSource_of_agreeButClass (agree : source.AgreeButClass also) :
    (∃ error, (ofSource source).value = .error error ∧ (ofSource also).value = .error error) ∨
      ∃ opened twin, (ofSource source).value = .ok opened ∧ (ofSource also).value = .ok twin ∧
        AgreeButClass opened twin := by
  cases ready : source.setup with
  | error cause =>
      have unready := agree.setup.symm.trans ready
      refine Or.inl ⟨.setup cause, ?_, ?_⟩
      · simp only [ofSource, ready, Logged.value_pure]
      · simp only [ofSource, unready, Logged.value_pure]
  | ok done =>
      have prepared := agree.setup.symm.trans ready
      refine Or.inr ?_
      cases kind : source.kind with
      | other =>
          exact ⟨_, _, value_ofSource_of_other ready kind,
            value_ofSource_of_other prepared (agree.kind.symm.trans kind), .inert⟩
      | elf =>
          exact ⟨_, _, value_ofSource_of_elf ready kind,
            value_ofSource_of_elf prepared (agree.kind.symm.trans kind),
            .elf agree _ _ _ _ .empty⟩

/-- Sources that differ in nothing but their class and identification bytes are both opened or
both refused for the same reason. Whatever is asked of them then, in whatever order, they give the
same replies and stay alike: only widths, identification bytes and diagnostics may differ. -/
theorem class_changes_display_only (agree : source.AgreeButClass also) :
    (∀ error, (ofSource source).value = .error error ↔ (ofSource also).value = .error error) ∧
    ((∃ opened, (ofSource source).value = .ok opened) ↔
      ∃ twin, (ofSource also).value = .ok twin) ∧
    ∀ opened twin, (ofSource source).value = .ok opened → (ofSource also).value = .ok twin →
      ∀ requests,
        let last := (opened.run requests).1
        let late := (twin.run requests).1
        (opened.run requests).2 = (twin.run requests).2 ∧
        last.isElf = late.isElf ∧ last.isClosed = late.isClosed ∧ last.table = late.table ∧
        SameWalks last.sections late.sections := by
  rcases ofSource_of_agreeButClass agree with ⟨error, first, second⟩ |
    ⟨opened, twin, first, second, alike⟩
  · simp [first, second]
  · refine ⟨by simp [first, second], by simp [first, second], ?_⟩
    intro found mirrored opens reopens requests last late
    cases first.symm.trans opens
    cases second.symm.trans reopens
    rcases alike.run requests with ⟨after, replies⟩
    exact ⟨replies, after.isElf_eq, after.isClosed_eq, after.table_eq, after.sameWalks⟩

theorem class_changes_display_only_halfReadable :
    let nameless : Source :=
      { halfReadable with width := .error (.malformed (.unknownClass 7)), ident := none }
    let requests : List Request :=
      [.build, .fileOffset 0x400040, .sections, .findSize ".text", .close, .build]
    halfReadable.AgreeButClass nameless ∧
    ∃ opened twin, (ofSource halfReadable).value = .ok opened ∧
      (ofSource nameless).value = .ok twin ∧
      opened.width = .bits64 ∧ twin.width = .unknown ∧ opened.ident ≠ twin.ident ∧
      (opened.run requests).2 = (twin.run requests).2 ∧
      (opened.run [.build]).1.table = (twin.run [.build]).1.table ∧
      (twin.run [.build]).1.table.size = 2 := by
  intro nameless requests
  have agree : halfReadable.AgreeButClass nameless :=
    ⟨rfl, rfl, rfl, fun _ => rfl, rfl, fun _ => rfl, rfl, fun _ _ => rfl⟩
  have alike := (class_changes_display_only agree).2.2 _ _ rfl rfl
  exact ⟨agree, _, _, rfl, rfl, rfl, rfl, by decide, (alike requests).1,
    (alike [.build]).2.2.2.1, by decide⟩

end Session

end ElfTables

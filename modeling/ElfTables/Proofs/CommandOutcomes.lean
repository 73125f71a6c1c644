import ElfTables.Command.Program
import ElfTables.Proofs.FirstFailure
import ElfTables.Proofs.SectionWalks

namespace ElfTables

inductive Query.Unmatched : Query → String → JsonRecord → Prop
  | offset (address : UInt64) :
      Unmatched (.offset address) "could not find offset from vaddr"
        [("vaddr", .number address.toNat), ("offset", .null), ("segment", .null)]
  | find (name : String) :
      Unmatched (.find name) s!"no section named {name}"
        [("name", .string name), ("offset", .null), ("size", .null)]

namespace Session

def Fails (session : Session) : Query → Prop
  | .info => False
  | .segments | .offset _ => ∃ error, session.build.value.2 = .error error
  | .sections => (∃ error, session.sections = .error error) ∨
    ∃ walk error, session.sections = .ok walk ∧ .error error ∈ walk.toList
  | .find name => ∃ error, (session.findSection name).value = .error error

end Session

namespace Answer

variable {session : Session}

theorem line_ne_empty (text : List Char) : line text ≠ "" := by
  simp [line]

theorem line_inj {text other : List Char} (same : line text = line other) : text = other := by
  rw [line, line, String.ofList_inj] at same
  exact List.append_cancel_right same

theorem built_eq (session : Session) :
    built session =
      match session.build.value.2 with
      | .ok () => .ok session.build.value.1
      | .error error => .error ⟨some "couldn't parse the program header table", error⟩ := by
  rcases result : session.build.value with ⟨loaded, outcome⟩
  cases outcome with
  | ok done => simp only [built, result]
  | error error => simp only [built, result]

section Lookups

variable {address : UInt64} {name : String}

theorem offset_of_failed {error : QueryError} (failed : session.build.value.2 = .error error)
    (json : Bool) :
    offset session address json =
      .error ⟨some "couldn't parse the program header table", error⟩ := by
  simp only [offset, built_eq, failed]
  rfl

theorem offset_of_uncovered (built : session.build.value.2 = .ok ())
    (uncovered : session.build.value.1.table.coveringSegment? address = none) (json : Bool) :
    offset session address json =
      .ok (.missing (if json then jsonLine (offsetRecord address none) else "")
        "could not find offset from vaddr") := by
  simp only [offset, built_eq, built, bind, Except.bind, uncovered]
  rfl

theorem offset_of_covered {segment : Segment} {place : UInt64}
    (built : session.build.value.2 = .ok ())
    (covered : session.build.value.1.table.coveringSegment? address = some segment)
    (placed : segment.offsetAt address = place) (json : Bool) :
    offset session address json =
      .ok (.found (if json then jsonLine (offsetRecord address (some segment)) else
        s!"  offset_of({formatOffset address}) = {formatOffset place} ({segment.kind.name})\n")) := by
  subst placed
  simp only [offset, built_eq, built, bind, Except.bind, covered]
  rfl

theorem find_of_error {error : QueryError}
    (failed : (session.findSection name).value = .error error) (json : Bool) :
    find session name json = .error ⟨none, error⟩ := by
  simp only [find, failed]

theorem find_of_none (searched : (session.findSection name).value = .ok none) (json : Bool) :
    find session name json =
      .ok (.missing (if json then jsonLine (sectionRecord name none) else "")
        s!"no section named {name}") := by
  simp only [find, searched]

theorem find_of_some {entry : Section} {offset : UInt64}
    (searched : (session.findSection name).value = .ok (some entry))
    (starts : entry.fileOffset = offset) (json : Bool) :
    find session name json =
      .ok (.found (if json then jsonLine (sectionRecord name (some entry)) else
        s!"{name}: offset {formatOffset offset}, size {Hex.literal 0 entry.size.toNat}\n")) := by
  subst starts
  simp only [find, searched]

end Lookups

end Answer

namespace Opened

/-- The session that a query is put to. What is no ELF object can only be identified. -/
def Serves (opened : Opened) (query : Query) (session : Session) : Prop :=
  ∃ handle, opened = .ready handle ∧ (Session.ofHandle handle).value = .ok session ∧
    (session.isElf = true ∨ query = .info)

inductive Fails (query : Query) : Opened → Prop
  | missing (reason : String) : Fails query (.failed reason)
  | unreadable {handle : Handle} {error : QueryError}
      (fails : (Session.ofHandle handle).value = .error error) : Fails query (.ready handle)
  | foreign {handle : Handle} {session : Session}
      (opens : (Session.ofHandle handle).value = .ok session) (other : session.isElf = false)
      (asks : query ≠ .info) : Fails query (.ready handle)
  | unanswered {opened : Opened} {session : Session} (serves : opened.Serves query session)
      (fails : session.Fails query) : Fails query opened

variable {opened : Opened} {query : Query} {session : Session}

theorem serves_ready_iff {handle : Handle} :
    (ready handle).Serves query session ↔
      (Session.ofHandle handle).value = .ok session ∧ (session.isElf = true ∨ query = .info) := by
  simp [Serves]

theorem Serves.unique {other : Session} (serves : opened.Serves query session)
    (also : opened.Serves query other) : other = session := by
  rcases serves with ⟨handle, rfl, opens, _⟩
  rcases also with ⟨same, ready, again, _⟩
  cases ready
  rw [opens] at again
  exact (Except.ok.inj again).symm

end Opened

namespace Outcome

/-- All went well, and there is something to read. -/
structure Answers (outcome : Outcome) : Prop where
  exits : outcome.exitCode = 0
  quiet : outcome.stderr = ""
  printed : outcome.stdout ≠ ""

structure Complains (outcome : Outcome) : Prop where
  exits : outcome.exitCode = 1
  explained : outcome.stderr ≠ ""
  silent : outcome.stdout = ""

end Outcome

namespace Program

theorem complains_report (context : String) (causes : List String) :
    (report context causes).Complains :=
  ⟨rfl, by simp [report, toString], rfl⟩

theorem complains_complain (text : String) : (complain text).Complains :=
  ⟨rfl, by simp [complain], rfl⟩

theorem inspect_of_serves {invocation : Invocation} {opened : Opened} {session : Session}
    (serves : opened.Serves invocation.query session) (colours : Bool) :
    inspect invocation colours opened =
      ofAnswer colours (Answer.ofQuery session invocation.json invocation.query) := by
  rcases serves with ⟨handle, rfl, opens, answerable⟩
  have accepted : (!session.isElf && invocation.query != .info) = false := by
    simpa [or_iff_not_imp_left] using answerable
  simp only [inspect, opens, accepted, Bool.false_eq_true, if_false]

theorem complains_of_unserved {invocation : Invocation} {opened : Opened}
    (unserved : ∀ session, ¬opened.Serves invocation.query session) (colours : Bool) :
    opened.Fails invocation.query ∧ (inspect invocation colours opened).Complains := by
  cases opened with
  | failed reason => exact ⟨.missing reason, complains_report _ _⟩
  | ready handle =>
      cases opens : (Session.ofHandle handle).value with
      | error error =>
          simp only [inspect, opens]
          exact ⟨.unreadable opens, complains_report _ _⟩
      | ok session =>
          have foreign := unserved session
          rw [Opened.serves_ready_iff, not_and, not_or, Bool.not_eq_true] at foreign
          rcases foreign opens with ⟨other, asks⟩
          have refused : (!session.isElf && invocation.query != .info) = true := by
            simp [other, asks]
          simp only [inspect, opens, refused, if_true]
          exact ⟨.foreign opens other asks, complains_complain _⟩

section Runs

variable {arguments : List String} {invocation : Invocation} {files : String → Opened}

theorem run_of_serves (understood : Arguments.parse arguments = .ok (.inspect invocation))
    {session : Session} (serves : (files invocation.path).Serves invocation.query session)
    (colours : Bool) :
    run arguments files colours =
      ofAnswer colours (Answer.ofQuery session invocation.json invocation.query) := by
  simp only [run, understood]
  exact inspect_of_serves serves colours

theorem found_of_exits {answer : Except Failure Answer} {colours : Bool}
    (succeeds : (ofAnswer colours answer).exitCode = 0) :
    answer = .ok (.found (ofAnswer colours answer).stdout) := by
  cases answer with
  | error failure => cases succeeds
  | ok answer =>
      cases answer with
      | found text => rfl
      | missing text notice => cases succeeds

theorem exists_answer_of_exits {colours : Bool}
    (understood : Arguments.parse arguments = .ok (.inspect invocation))
    (succeeds : (run arguments files colours).exitCode = 0) :
    ∃ session, (files invocation.path).Serves invocation.query session ∧
      Answer.ofQuery session invocation.json invocation.query =
        .ok (.found (run arguments files colours).stdout) := by
  by_cases served : ∃ session, (files invocation.path).Serves invocation.query session
  · rcases served with ⟨session, serves⟩
    have same := run_of_serves understood serves colours
    rw [same] at succeeds ⊢
    exact ⟨session, serves, found_of_exits succeeds⟩
  · rw [not_exists] at served
    have complains := (complains_of_unserved served colours).2
    simp only [run, understood, complains.exits] at succeeds
    cases succeeds

end Runs

end Program

end ElfTables

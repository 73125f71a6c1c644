import ElfTables.Proofs.Opening
import ElfTables.Proofs.Requests
import ElfTables.Proofs.SegmentLoads

/-!
What a session remembers of its past: whether it was closed, and else whether it was built.
Everything else that was asked leaves no trace (`Session.run_fst_eq_settled`).
-/
namespace ElfTables

/-- The table holds the segments of a source up to where reading its headers in order ends. -/
def SegmentTable.HoldsReadable (table : SegmentTable) (source : Source) : Prop :=
  ∃ headers, source.StopsAt headers.length ∧ source.Reads 0 headers ∧
    table.toList = headers.map Segment.ofHeader

namespace Session

/-- The session that a history leaves behind in which `built` and `closed` say whether a build and
a close occurred. -/
def settled (session : Session) (built closed : Bool) : Session :=
  if closed then .closed session.width
  else if built then session.build.value.1
  else session

/-- Every request that reads the source fails with this error and changes nothing. -/
def Refuses (session : Session) (error : QueryError) : Prop :=
  ∀ request : Request, request.needsSource = true →
    (session.perform request).1 = session ∧ (session.perform request).2.error? = some error

theorem build_after_build (session : Session) :
    session.build.value.1.build.value = session.build.value := by
  cases session with
  | elf source width ident table => rw [value_build_elf, value_build_elf]
  | inert => rfl
  | closed width => rfl

theorem width_build (session : Session) : session.build.value.1.width = session.width := by
  cases session with
  | elf source width ident table =>
      rw [value_build_elf]
      rfl
  | inert => rfl
  | closed width => rfl

theorem value_close (session : Session) : session.close.value = .closed session.width := by
  cases session <;> rfl

theorem width_settled (session : Session) (built closed : Bool) :
    (session.settled built closed).width = session.width := by
  cases closed with
  | true => rfl
  | false =>
      cases built with
      | true => exact session.width_build
      | false => rfl

theorem perform_settled (session : Session) (built closed : Bool) (request : Request) :
    ((session.settled built closed).perform request).1 =
      session.settled (built || Request.build == request) (closed || Request.close == request) := by
  by_cases build : Request.build = request
  · subst build
    have stays : (closed || Request.close == Request.build) = closed := Bool.or_false closed
    have marks : (built || Request.build == Request.build) = true := Bool.or_true built
    rw [stays, marks]
    cases closed with
    | true => rfl
    | false =>
        cases built with
        | true => exact congrArg Prod.fst session.build_after_build
        | false => rfl
  · by_cases close : Request.close = request
    · subst close
      have closes := (session.settled built closed).value_close
      have marks : (closed || Request.close == Request.close) = true := Bool.or_true closed
      rw [width_settled] at closes
      rw [marks]
      exact closes
    · have same := perform_fst_of_query (session.settled built closed) (Ne.symm build)
        (Ne.symm close)
      rw [same, beq_eq_false_iff_ne.mpr build, beq_eq_false_iff_ne.mpr close, Bool.or_false,
        Bool.or_false]

theorem run_settled (session : Session) (built closed : Bool) (requests : List Request) :
    ((session.settled built closed).run requests).1 =
      session.settled (built || requests.contains .build)
        (closed || requests.contains .close) := by
  -- The induction is on the requests, over any history in front of them.
  induction requests generalizing built closed with
  | nil =>
      rw [List.contains_nil, List.contains_nil, Bool.or_false, Bool.or_false]
      rfl
  | cons request rest ih =>
      rw [run, perform_settled, ih, List.contains_cons, List.contains_cons, Bool.or_assoc,
        Bool.or_assoc]

theorem run_fst_eq_settled (session : Session) (requests : List Request) :
    (session.run requests).1 =
      session.settled (requests.contains .build) (requests.contains .close) :=
  run_settled session false false requests

section Run

variable {session : Session} {requests : List Request}

theorem run_of_close (member : .close ∈ requests) :
    (session.run requests).1 = .closed session.width := by
  rw [run_fst_eq_settled, List.contains_iff_mem.mpr member]
  rfl

theorem run_of_build (member : .build ∈ requests) (stays : .close ∉ requests) :
    (session.run requests).1 = session.build.value.1 := by
  rw [run_fst_eq_settled, List.contains_eq_mem, List.contains_eq_mem, decide_eq_true member,
    decide_eq_false stays]
  rfl

theorem run_of_queries (unbuilt : .build ∉ requests) (stays : .close ∉ requests) :
    (session.run requests).1 = session := by
  rw [run_fst_eq_settled, List.contains_eq_mem, List.contains_eq_mem, decide_eq_false unbuilt,
    decide_eq_false stays]
  rfl

theorem run_of_not_isElf (other : session.isElf = false) (stays : .close ∉ requests) :
    (session.run requests).1 = session := by
  by_cases member : .build ∈ requests
  · rw [run_of_build member stays]
    cases session with
    | elf source width ident table => cases other
    | inert => rfl
    | closed width => rfl
  · exact run_of_queries member stays

end Run

theorem run_replicate {session : Session} {request : Request}
    (again : (session.perform request).1.perform request = session.perform request) (more : Nat) :
    session.run (List.replicate (more + 1) request) =
      ((session.perform request).1, List.replicate (more + 1) (session.perform request).2) := by
  induction more generalizing session with
  | zero => rfl
  | succ more ih =>
      have behind : (session.perform request).1.run (List.replicate (more + 1) request) =
          (((session.perform request).1.perform request).1,
            List.replicate (more + 1) ((session.perform request).1.perform request).2) := by
        apply ih
        rw [again]
        exact again
      rw [List.replicate_succ, run, behind, again]
      rfl

theorem perform_build_again (session : Session) :
    (session.perform .build).1.perform .build = session.perform .build := by
  simp only [perform, build_after_build]

theorem perform_close_again (session : Session) :
    (session.perform .close).1.perform .close = session.perform .close := by
  simp only [perform, value_close, width]

theorem refuses_inert : Refuses .inert .notElf := by
  intro request reads
  cases request with
  | close | segments | fileOffset address => cases reads
  | build | source | sections | findSection name | findOffset name | findSize name =>
      exact ⟨rfl, rfl⟩

theorem refuses_closed (width : AddressWidth) : Refuses (.closed width) .closed := by
  intro request reads
  cases request with
  | close | segments | fileOffset address => cases reads
  | build | source | sections | findSection name | findOffset name | findSize name =>
      exact ⟨rfl, rfl⟩

theorem value_build_of_elf (source : Source) (width : AddressWidth) (ident : Option (List UInt8))
    (table : SegmentTable) :
    ∃ loaded, loaded.HoldsReadable source ∧
      (build (.elf source width ident table)).value.1 = .elf source width ident loaded := by
  obtain ⟨headers, stops, reads, kept, _⟩ := SegmentTable.empty.load_spec source
  rw [SegmentTable.toList_empty, List.nil_append] at kept
  exact ⟨_, ⟨headers, stops, reads, kept⟩, by rw [value_build_elf]⟩

/-- However a session was used, it is as if only its close, or else one build, had happened. -/
theorem run_of_opened {source : Source} {opened : Session}
    (opening : (ofSource source).value = .ok opened) (requests : List Request) :
    let last := (opened.run requests).1
    (.close ∈ requests →
      last = .closed opened.width ∧ last.isClosed = true ∧ last.table.toList = [] ∧
        last.ident = none ∧ last.width = opened.width ∧ last.Refuses .closed) ∧
    (.close ∉ requests → opened.isElf = true → .build ∈ requests →
      ∃ loaded : SegmentTable, loaded.HoldsReadable source ∧
        last = .elf source opened.width opened.ident loaded) ∧
    (.close ∉ requests → (opened.isElf = true → .build ∉ requests) → last = opened) ∧
    (.close ∉ requests → last.perform .build = opened.perform .build) ∧
    (∀ more, last.run (List.replicate (more + 1) .build) =
      ((last.perform .build).1, List.replicate (more + 1) (last.perform .build).2)) ∧
    (∀ more, last.run (List.replicate (more + 1) .close) =
      ((last.perform .close).1, List.replicate (more + 1) (last.perform .close).2)) ∧
    (opened.isElf = false →
      last.table.toList = [] ∧ last.ident = none ∧ last.width = .unknown) ∧
    (opened.isElf = false → .close ∉ requests → last.Refuses .notElf) := by
  refine ⟨?closed, ?built, ?untouched, ?rebuilt, ?builds, ?closes, ?bare, ?inert⟩
  case closed =>
    intro member
    rw [run_of_close member]
    exact ⟨rfl, rfl, rfl, rfl, rfl, refuses_closed opened.width⟩
  case built =>
    intro stays elf member
    obtain ⟨loaded, holds, built⟩ :=
      value_build_of_elf source opened.width opened.ident .empty
    rw [← elf_of_value_ofSource opening elf] at built
    exact ⟨loaded, holds, by rw [run_of_build member stays, built]⟩
  case untouched =>
    intro stays unbuilt
    cases elf : opened.isElf with
    | true => exact run_of_queries (unbuilt elf) stays
    | false => exact run_of_not_isElf elf stays
  case rebuilt =>
    intro stays
    by_cases member : .build ∈ requests
    · rw [run_of_build member stays]
      exact opened.perform_build_again
    · rw [run_of_queries member stays]
  case builds =>
    intro more
    exact run_replicate (perform_build_again _) more
  case closes =>
    intro more
    exact run_replicate (perform_close_again _) more
  case bare =>
    intro other
    have inert := inert_of_value_ofSource opening other
    by_cases member : .close ∈ requests
    · rw [run_of_close member, inert]
      exact ⟨rfl, rfl, rfl⟩
    · rw [run_of_not_isElf other member, inert]
      exact ⟨rfl, rfl, rfl⟩
  case inert =>
    intro other stays
    rw [run_of_not_isElf other stays, inert_of_value_ofSource opening other]
    exact refuses_inert

def halfReadable : Source where
  setup := .ok ()
  kind := .elf
  width := .ok .bits64
  ident := some [0x7f, 0x45, 0x4c, 0x46]
  segmentCount := .ok 5
  segmentHeader index :=
    if index < 2 then .ok ⟨1, 5, 0x1000, 0x400000, 0x400000, 0x80, 0x100, 0x1000⟩
    else .error (.badOffset index)
  sectionCount := .ok 1
  sectionHeader index := .error (.badOffset index)
  nameTable := .ok 1
  stringAt _ offset := .error (.badOffset offset)

theorem run_of_opened_halfReadable :
    (ofSource halfReadable).value =
        .ok (.elf halfReadable .bits64 halfReadable.ident .empty) ∧
      (∃ loaded : SegmentTable, loaded.HoldsReadable halfReadable ∧
        (run (.elf halfReadable .bits64 halfReadable.ident .empty)
          [.build, .sections, .segments, .build, .findSection ".text"]).1 =
            .elf halfReadable .bits64 halfReadable.ident loaded) ∧
      (run (.elf halfReadable .bits64 halfReadable.ident .empty)
        [.build, .close, .build, .close, .fileOffset 0x400000]).1 = .closed .bits64 := by
  have opening : (ofSource halfReadable).value =
      .ok (.elf halfReadable .bits64 halfReadable.ident .empty) := rfl
  refine ⟨opening, ?_, ?_⟩
  · exact (run_of_opened opening _).2.1 (by decide) rfl (by decide)
  · exact ((run_of_opened opening _).1 (by decide)).1

end Session

end ElfTables

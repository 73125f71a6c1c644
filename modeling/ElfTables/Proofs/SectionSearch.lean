import ElfTables.Proofs.SectionWalks

namespace ElfTables

/-- Sections of other names come first, and behind them the items go on with `rest`. -/
def Passes (name : String) (items rest : List (Except QueryError Section)) : Prop :=
  ∃ others : List Section,
    (∀ other ∈ others, other.name ≠ name) ∧ items = others.map Except.ok ++ rest

/-- What the items say to a search by name. -/
@[mk_iff] inductive Decides (name : String) (items : List (Except QueryError Section)) :
    Except QueryError (Option Section) → Prop
  | found {entry : Section} {rest : List (Except QueryError Section)} (named : entry.name = name)
      (passes : Passes name items (.ok entry :: rest)) : Decides name items (.ok (some entry))
  | failed {error : QueryError} {rest : List (Except QueryError Section)}
      (passes : Passes name items (.error error :: rest)) : Decides name items (.error error)
  | absent (passes : Passes name items []) : Decides name items (.ok none)

section Items

variable {name : String} {items rest : List (Except QueryError Section)}

theorem Passes.refl (name : String) (items : List (Except QueryError Section)) :
    Passes name items items :=
  ⟨[], by simp, rfl⟩

theorem Passes.cons {entry : Section} (other : entry.name ≠ name)
    (passes : Passes name items rest) : Passes name (.ok entry :: items) rest := by
  rcases passes with ⟨others, different, rfl⟩
  refine ⟨entry :: others, ?_, rfl⟩
  simp only [List.mem_cons, forall_eq_or_imp]
  exact ⟨other, different⟩

theorem Passes.firstNamed_eq (passes : Passes name items rest) :
    firstNamed name items = firstNamed name rest := by
  rcases passes with ⟨others, different, rfl⟩
  have absent : others.find? (fun entry => entry.name = name) = none := by
    simpa using different
  rw [firstNamed_append, absent]

theorem Decides.cons {entry : Section} {result : Except QueryError (Option Section)}
    (other : entry.name ≠ name) (decides : Decides name items result) :
    Decides name (.ok entry :: items) result := by
  cases decides with
  | found named passes => exact .found named (passes.cons other)
  | failed passes => exact .failed (passes.cons other)
  | absent passes => exact .absent (passes.cons other)

theorem decides_firstNamed (name : String) (items : List (Except QueryError Section)) :
    Decides name items (firstNamed name items) := by
  induction items with
  | nil => exact .absent (Passes.refl name [])
  | cons item items ih =>
      cases item with
      | error error => exact .failed (Passes.refl name _)
      | ok entry =>
          by_cases named : entry.name = name
          · simp only [firstNamed, named, if_true]
            exact .found named (Passes.refl name _)
          · simp only [firstNamed, named, if_false]
            exact ih.cons named

theorem firstNamed_eq_iff {result : Except QueryError (Option Section)} :
    firstNamed name items = result ↔ Decides name items result := by
  constructor
  · rintro rfl
    exact decides_firstNamed name items
  · intro decides
    cases decides with
    | found named passes => simp [passes.firstNamed_eq, firstNamed, named]
    | failed passes => exact passes.firstNamed_eq
    | absent passes => exact passes.firstNamed_eq

end Items

example : firstNamed ".data" [.ok ⟨".text", 0x1040, 0x401040, 0x1a5⟩,
    .ok ⟨".data", 0x3000, 0x403000, 0x10⟩, .error (.sectionScan (.header 3) (.badOffset 9))] =
      .ok (some ⟨".data", 0x3000, 0x403000, 0x10⟩) := by decide

namespace Session

variable {session : Session}

theorem findSection_of_error {error : QueryError} (refused : session.sections = .error error)
    (name : String) : (session.findSection name).value = .error error := by
  rw [value_findSection, refused]
  rfl

theorem findSection_of_walk {walk : SectionWalk} (started : session.sections = .ok walk)
    (name : String) : (session.findSection name).value = firstNamed name walk.toList := by
  rw [value_findSection, started]
  exact walk.find?_eq_firstNamed name

/-- A search by name through any session, over whatever source, is decided by the items of a walk
over its sections. What is told of a section is told of the one that the search finds. -/
theorem findSection_decided_by_items (session : Session) (name : String) :
    let found := (session.findSection name).value
    (∀ entry, found = .ok (some entry) ↔
      ∃ walk rest, session.sections = .ok walk ∧ entry.name = name ∧
        Passes name walk.toList (.ok entry :: rest)) ∧
    (∀ error, found = .error error ↔
      session.sections = .error error ∨
        ∃ walk rest, session.sections = .ok walk ∧
          Passes name walk.toList (.error error :: rest)) ∧
    (found = .ok none ↔ ∃ walk, session.sections = .ok walk ∧ Passes name walk.toList []) ∧
    (session.findOffset name).value = found.map (Option.map Section.fileOffset) ∧
    (session.findSize name).value = found.map (Option.map Section.size) := by
  intro found
  refine ⟨?some, ?error, ?none, rfl, rfl⟩
  all_goals cases started : session.sections with
    | error refusal => simp [found, findSection_of_error started]
    | ok walk => simp [found, findSection_of_walk started, firstNamed_eq_iff, decides_iff]

end Session

end ElfTables

import ElfTables.Session
import Mathlib

namespace ElfTables

def firstNamed (name : String) :
    List (Except QueryError Section) → Except QueryError (Option Section)
  | [] => .ok none
  | .ok entry :: rest => if entry.name = name then .ok (some entry) else firstNamed name rest
  | .error error :: _ => .error error

theorem firstNamed_append (name : String) (found : List Section)
    (rest : List (Except QueryError Section)) :
    firstNamed name (found.map Except.ok ++ rest) =
      match found.find? fun entry => entry.name = name with
      | some entry => .ok (some entry)
      | none => firstNamed name rest := by
  induction found with
  | nil => rfl
  | cons entry found ih =>
      by_cases same : entry.name = name
      · simp only [List.map_cons, List.cons_append, firstNamed, same, if_true, List.find?_cons,
          decide_true]
      · simp only [List.map_cons, List.cons_append, firstNamed, same, if_false, List.find?_cons,
          decide_false, ih]

namespace SectionWalk

variable {walk rest : SectionWalk} {item : Except QueryError Section}

theorem start_eq_ok_iff {source : Source} :
    start source = .ok walk ↔
      ∃ names count, source.nameTable = .ok names ∧ source.sectionCount = .ok count ∧
        walk = ⟨source, names, 1, count⟩ := by
  constructor
  · intro started
    cases named : source.nameTable with
    | error cause => simp [start, named] at started
    | ok names =>
        cases counted : source.sectionCount with
        | error cause => simp [start, named, counted] at started
        | ok count =>
            simp only [start, named, counted, Except.ok.injEq] at started
            exact ⟨names, count, rfl, rfl, started.symm⟩
  · rintro ⟨names, count, named, counted, rfl⟩
    simp only [start, named, counted]

theorem next?_of_ended (ended : walk.count ≤ walk.index) : walk.next? = none := by
  rw [next?, if_neg (Nat.not_lt.mpr ended)]

theorem next?_of_ok (inside : walk.index < walk.count) {entry : Section}
    (found : sectionAt walk.source walk.names walk.index = .ok entry) :
    walk.next? = some (.ok entry, { walk with index := walk.index + 1 }) := by
  rw [next?, if_pos inside, found]

theorem next?_of_error (inside : walk.index < walk.count) {error : QueryError}
    (failed : sectionAt walk.source walk.names walk.index = .error error) :
    walk.next? = some (.error error, { walk with index := walk.count }) := by
  rw [next?, if_pos inside, failed]

theorem toList_of_none (ended : walk.next? = none) : walk.toList = [] := by
  rw [toList]
  split
  next => rfl
  next step =>
    rw [ended] at step
    cases step

theorem toList_of_some (step : walk.next? = some (item, rest)) :
    walk.toList = item :: rest.toList := by
  rw [toList]
  split
  next ended =>
    rw [ended] at step
    cases step
  next other =>
    rw [step] at other
    cases other
    rfl

theorem toList_of_ended (ended : walk.count ≤ walk.index) : walk.toList = [] :=
  toList_of_none (next?_of_ended ended)

theorem toList_of_ok (inside : walk.index < walk.count) {entry : Section}
    (found : sectionAt walk.source walk.names walk.index = .ok entry) :
    walk.toList = .ok entry :: toList { walk with index := walk.index + 1 } :=
  toList_of_some (next?_of_ok inside found)

theorem toList_of_error (inside : walk.index < walk.count) {error : QueryError}
    (failed : sectionAt walk.source walk.names walk.index = .error error) :
    walk.toList = [.error error] := by
  rw [toList_of_some (next?_of_error inside failed), toList_of_ended (Nat.le_refl walk.count)]

/-- A walk gives the sections in front of the first that cannot be read, and then the error of
that one. The induction is on what remains. -/
theorem toList_spec (walk : SectionWalk) :
    ∃ entries : List Section,
      (∀ index (inside : index < entries.length),
        sectionAt walk.source walk.names (walk.index + index) = .ok entries[index]) ∧
      (walk.toList = entries.map Except.ok ∧ entries.length = walk.remaining ∨
        ∃ error, walk.toList = entries.map Except.ok ++ [.error error] ∧
          entries.length < walk.remaining ∧
          sectionAt walk.source walk.names (walk.index + entries.length) = .error error) := by
  generalize measure : walk.remaining = remaining
  induction remaining generalizing walk with
  | zero =>
      have ended : walk.count ≤ walk.index := Nat.le_of_sub_eq_zero measure
      exact ⟨[], by simp, Or.inl ⟨toList_of_ended ended, rfl⟩⟩
  | succ remaining ih =>
      have inside : walk.index < walk.count := by
        simp only [SectionWalk.remaining] at measure
        omega
      cases first : sectionAt walk.source walk.names walk.index with
      | error error =>
          exact ⟨[], by simp, Or.inr ⟨error, toList_of_error inside first, by simp, first⟩⟩
      | ok entry =>
          have less : ({ walk with index := walk.index + 1 } : SectionWalk).remaining =
              remaining := by
            simp only [SectionWalk.remaining] at measure ⊢
            omega
          obtain ⟨entries, found, ending⟩ := ih { walk with index := walk.index + 1 } less
          have shifted : ∀ index, walk.index + (index + 1) = walk.index + 1 + index := by
            intro index
            omega
          refine ⟨entry :: entries, ?_, ?_⟩
          · intro index inside
            cases index with
            | zero => exact first
            | succ index =>
                rw [shifted]
                exact found index (Nat.lt_of_succ_lt_succ inside)
          · rw [toList_of_ok inside first, List.length_cons, shifted entries.length]
            rcases ending with ⟨items, full⟩ | ⟨error, items, short, failed⟩
            · exact Or.inl ⟨by simp [items], by rw [full]⟩
            · exact Or.inr ⟨error, by simp [items], Nat.succ_lt_succ short, failed⟩

theorem toList_of_sections (walk : SectionWalk) (sections : List Section)
    (counted : walk.count = walk.index + sections.length)
    (found : ∀ index (inside : index < sections.length),
      sectionAt walk.source walk.names (walk.index + index) = .ok sections[index]) :
    walk.toList = sections.map Except.ok := by
  have whole : walk.remaining = sections.length := by
    simp only [remaining, counted, Nat.add_sub_cancel_left]
  obtain ⟨entries, read, ending⟩ := walk.toList_spec
  rw [whole] at ending
  rcases ending with ⟨items, full⟩ | ⟨error, _, short, failed⟩
  · have same : entries = sections := by
      apply List.ext_getElem full
      intro index here there
      exact Except.ok.inj ((read index here).symm.trans (found index there))
    rw [items, same]
  · rw [found entries.length short] at failed
    cases failed

theorem find?_of_none (name : String) (ended : walk.next? = none) : walk.find? name = .ok none := by
  rw [find?]
  split
  next => rfl
  next step =>
    rw [ended] at step
    cases step
  next step =>
    rw [ended] at step
    cases step

theorem find?_of_ok (name : String) {entry : Section}
    (step : walk.next? = some (.ok entry, rest)) :
    walk.find? name = if entry.name = name then .ok (some entry) else rest.find? name := by
  rw [find?]
  split
  next ended =>
    rw [ended] at step
    cases step
  next other =>
    rw [step] at other
    cases other
    rfl
  next other =>
    rw [step] at other
    cases other

theorem find?_of_error (name : String) {error : QueryError}
    (step : walk.next? = some (.error error, rest)) : walk.find? name = .error error := by
  rw [find?]
  split
  next ended =>
    rw [ended] at step
    cases step
  next other =>
    rw [step] at other
    cases other
  next other =>
    rw [step] at other
    cases other
    rfl

theorem find?_eq_firstNamed (walk : SectionWalk) (name : String) :
    walk.find? name = firstNamed name walk.toList := by
  generalize measure : walk.remaining = remaining
  induction remaining using Nat.strong_induction_on generalizing walk with
  | _ remaining ih =>
      rcases step : walk.next? with _ | ⟨item, rest⟩
      · rw [find?_of_none name step, toList_of_none step, firstNamed]
      · rw [toList_of_some step]
        cases item with
        | error error => rw [find?_of_error name step, firstNamed]
        | ok entry =>
            have later := remaining_lt_of_next? step
            rw [find?_of_ok name step, firstNamed, ih rest.remaining (measure ▸ later) rest rfl]

theorem toList_of_collect {found entries : Array Section}
    (succeeds : walk.collect found = .ok entries) :
    found.toList.map Except.ok ++ walk.toList = entries.toList.map Except.ok := by
  fun_induction collect walk found with
  | case1 walk found ended =>
      cases succeeds
      simp [toList_of_none ended]
  | case2 walk found entry rest step ih => simp [toList_of_some step, ← ih succeeds]
  | case3 walk found error rest step => cases succeeds

theorem error_mem_of_collect {found : Array Section} {error : QueryError}
    (fails : walk.collect found = .error error) : .error error ∈ walk.toList := by
  fun_induction collect walk found with
  | case1 walk found ended => cases fails
  | case2 walk found entry rest step ih => simp [toList_of_some step, ih fails]
  | case3 walk found other rest step =>
      cases fails
      simp [toList_of_some step]

theorem collect_eq_ok_iff {entries : Array Section} :
    walk.collect #[] = .ok entries ↔ walk.toList = entries.toList.map Except.ok := by
  constructor
  · intro collected
    simpa using toList_of_collect collected
  · intro items
    cases collected : walk.collect #[] with
    | error error =>
        have member := error_mem_of_collect collected
        simp [items] at member
    | ok found =>
        have same := toList_of_collect collected
        rw [items, Array.toList_empty, List.map_nil, List.nil_append] at same
        have injective : Function.Injective (Except.ok : Section → Except QueryError Section) :=
          fun _ _ => Except.ok.inj
        rw [Array.toList_inj.mp (injective.list_map same)]

end SectionWalk

namespace Session

theorem sections_of_source {session : Session} {source : Source}
    (opened : session.source = .ok source) : session.sections = SectionWalk.start source := by
  simp only [sections, opened, bind, Except.bind]

theorem value_findSection (session : Session) (name : String) :
    (session.findSection name).value = session.sections.bind fun walk => walk.find? name := by
  rw [findSection]
  split
  next found => rw [found, Logged.value_bind, Logged.value_pure]
  next => rfl

end Session

end ElfTables

import ElfTables.Proofs.SectionWalks
import ElfTables.Proofs.SegmentLoads

/-!
Sources that answer at least what another one answers. A load gets at least as far on them
(`SegmentTable.load_isPrefix`), and so does a walk (`SectionWalk.toList_kept`).
-/
namespace ElfTables

def Keeps {ε α : Type} (earlier later : Except ε α) : Prop :=
  ∀ answer, earlier = .ok answer → later = .ok answer

namespace Keeps

variable {ε α β : Type}

theorem refl (outcome : Except ε α) : Keeps outcome outcome := by
  intro answer succeeds
  exact succeeds

theorem of_error (error : ε) (later : Except ε α) : Keeps (.error error) later := by
  intro answer succeeds
  cases succeeds

theorem bind {earlier later : Except ε α} (kept : Keeps earlier later)
    {next other : α → Except ε β} (rest : ∀ answer, Keeps (next answer) (other answer)) :
    Keeps (earlier >>= next) (later >>= other) := by
  cases first : earlier with
  | error error => exact of_error error _
  | ok answer =>
      rw [kept answer first]
      exact rest answer

theorem ite {condition : Prop} [Decidable condition] {first second other another : Except ε α}
    (holding : Keeps first other) (failing : Keeps second another) :
    Keeps (if condition then first else second) (if condition then other else another) := by
  by_cases holds : condition
  · rw [if_pos holds, if_pos holds]
    exact holding
  · rw [if_neg holds, if_neg holds]
    exact failing

end Keeps

/-- Every count, header, index and name of `earlier` is one of `later`. -/
structure Source.KeptBy (earlier later : Source) : Prop where
  segmentCount : Keeps earlier.segmentCount later.segmentCount
  segmentHeader : ∀ index, Keeps (earlier.segmentHeader index) (later.segmentHeader index)
  sectionCount : Keeps earlier.sectionCount later.sectionCount
  sectionHeader : ∀ index, Keeps (earlier.sectionHeader index) (later.sectionHeader index)
  nameTable : Keeps earlier.nameTable later.nameTable
  stringAt : ∀ table offset, Keeps (earlier.stringAt table offset) (later.stringAt table offset)

variable {earlier later : Source}

theorem Source.Reads.kept {start : Nat} {headers : List SegmentHeader}
    (reads : earlier.Reads start headers) (kept : earlier.KeptBy later) :
    later.Reads start headers := by
  intro index inside
  exact kept.segmentHeader (start + index) _ (reads index inside)

theorem Source.StopsAt.le_of_kept {headers : List SegmentHeader} {stop : Nat}
    (reads : earlier.Reads 0 headers) (stops : earlier.StopsAt headers.length)
    (kept : earlier.KeptBy later) (ends : later.StopsAt stop) : headers.length ≤ stop := by
  cases counted : earlier.segmentCount with
  | error cause =>
      rw [StopsAt, counted] at stops
      rw [stops]
      exact Nat.zero_le stop
  | ok count =>
      rw [StopsAt, counted] at stops
      rw [StopsAt, kept.segmentCount count counted] at ends
      rcases ends.1 with rfl | ⟨cause, fails⟩
      · exact stops.2 (Or.inl rfl)
      · by_contra beyond
        have read := reads.kept kept stop (Nat.lt_of_not_le beyond)
        rw [Nat.zero_add, fails] at read
        cases read

namespace SegmentTable

theorem load_isPrefix (kept : earlier.KeptBy later) (table : SegmentTable) :
    (table.load earlier).value.1.toList <+: (table.load later).value.1.toList := by
  obtain ⟨headers, stops, reads, held, _⟩ := table.load_spec earlier
  obtain ⟨others, ends, agrees, longer, _⟩ := table.load_spec later
  have among := (reads.kept kept).isPrefix agrees (stops.le_of_kept reads kept ends)
  rw [held, longer, List.prefix_append_right_inj]
  exact among.map Segment.ofHeader

theorem load_of_kept (kept : earlier.KeptBy later) {table : SegmentTable} {count : Nat}
    (succeeds : (table.load earlier).value.2 = .ok count) :
    (table.load later).value.1 = (table.load earlier).value.1 ∧
      (table.load later).value.2 = .ok count := by
  obtain ⟨headers, _, reads, held, ending⟩ := table.load_spec earlier
  rcases ending with ⟨cause, _, fails⟩ | ⟨counted, full⟩ | ⟨other, cause, _, _, _, fails⟩
  · rw [succeeds] at fails
    cases fails
  · rw [succeeds] at full
    cases full
    obtain ⟨longer, again⟩ :=
      table.load_of_reads (kept.segmentCount _ counted) (reads.kept kept)
    exact ⟨ext_toList (longer.trans held.symm), again⟩
  · rw [succeeds] at fails
    cases fails

end SegmentTable

/-- The items of two walks: sections that both have, and then nothing more or an error that ends
the first. -/
def ItemsKept (items others : List (Except QueryError Section)) : Prop :=
  ∃ (found : List Section) (ending more : List (Except QueryError Section)),
    items = found.map Except.ok ++ ending ∧ others = found.map Except.ok ++ more ∧
      (ending = [] ∧ more = [] ∨ ∃ error, ending = [.error error])

namespace ItemsKept

variable {items others : List (Except QueryError Section)}

theorem cons (entry : Section) (kept : ItemsKept items others) :
    ItemsKept (.ok entry :: items) (.ok entry :: others) := by
  obtain ⟨found, ending, more, rfl, rfl, alike⟩ := kept
  exact ⟨entry :: found, ending, more, rfl, rfl, alike⟩

theorem filter_isOk_isPrefix (kept : ItemsKept items others) :
    items.filter Except.isOk <+: others := by
  obtain ⟨found, ending, more, rfl, rfl, alike⟩ := kept
  have sections : (found.map Except.ok).filter Except.isOk =
      (found.map Except.ok : List (Except QueryError Section)) := by
    rw [List.filter_eq_self]
    intro item member
    obtain ⟨entry, _, rfl⟩ := List.mem_map.mp member
    rfl
  rw [List.filter_append, sections, List.prefix_append_right_inj]
  rcases alike with ⟨rfl, rfl⟩ | ⟨error, rfl⟩
  · exact List.prefix_refl []
  · exact List.nil_prefix

theorem firstNamed_kept (kept : ItemsKept items others) (name : String) :
    Keeps (firstNamed name items) (firstNamed name others) := by
  obtain ⟨found, ending, more, rfl, rfl, alike⟩ := kept
  rw [firstNamed_append, firstNamed_append]
  cases found.find? fun entry => entry.name = name with
  | some entry => exact Keeps.refl _
  | none =>
      rcases alike with ⟨rfl, rfl⟩ | ⟨error, rfl⟩
      · exact Keeps.refl _
      · exact Keeps.of_error error _

end ItemsKept

namespace SectionWalk

theorem sectionAt_kept (kept : earlier.KeptBy later) (names index : Nat) :
    Keeps (sectionAt earlier names index) (sectionAt later names index) := by
  intro entry found
  rw [sectionAt] at found ⊢
  cases read : earlier.sectionHeader index with
  | error cause =>
      rw [read] at found
      cases found
  | ok header =>
      rw [read] at found
      rw [kept.sectionHeader index header read]
      cases named : earlier.stringAt names header.name.toNat with
      | error cause =>
          simp only [named] at found
          cases found
      | ok name =>
          simp only [named] at found
          simp only [kept.stringAt names header.name.toNat name named, found]

theorem toList_kept (kept : earlier.KeptBy later) (names index count : Nat) :
    ItemsKept (toList ⟨earlier, names, index, count⟩) (toList ⟨later, names, index, count⟩) := by
  generalize remaining : count - index = steps
  -- The induction is on the items still to come.
  induction steps generalizing index with
  | zero =>
      have ended : count ≤ index := Nat.le_of_sub_eq_zero remaining
      rw [toList_of_ended ended, toList_of_ended ended]
      exact ⟨[], [], [], rfl, rfl, Or.inl ⟨rfl, rfl⟩⟩
  | succ steps ih =>
      have inside : index < count := by omega
      cases first : sectionAt earlier names index with
      | error error =>
          rw [toList_of_error inside first]
          exact ⟨[], _, _, rfl, rfl, Or.inr ⟨error, rfl⟩⟩
      | ok entry =>
          have same := sectionAt_kept kept names index entry first
          have here : toList ⟨earlier, names, index, count⟩ =
              .ok entry :: toList ⟨earlier, names, index + 1, count⟩ := toList_of_ok inside first
          have there : toList ⟨later, names, index, count⟩ =
              .ok entry :: toList ⟨later, names, index + 1, count⟩ := toList_of_ok inside same
          rw [here, there]
          apply ItemsKept.cons
          apply ih
          omega

theorem start_kept (kept : earlier.KeptBy later) {walk : SectionWalk}
    (started : start earlier = .ok walk) :
    ∃ longer, start later = .ok longer ∧ ItemsKept walk.toList longer.toList := by
  obtain ⟨names, count, named, counted, rfl⟩ := start_eq_ok_iff.mp started
  refine ⟨⟨later, names, 1, count⟩, ?_, toList_kept kept names 1 count⟩
  rw [start_eq_ok_iff]
  exact ⟨names, count, kept.nameTable names named, kept.sectionCount count counted, rfl⟩

theorem find?_kept (kept : earlier.KeptBy later) (name : String) :
    Keeps ((start earlier).bind fun walk => walk.find? name)
      ((start later).bind fun walk => walk.find? name) := by
  cases started : start earlier with
  | error error => exact Keeps.of_error error _
  | ok walk =>
      obtain ⟨longer, also, items⟩ := start_kept kept started
      rw [also]
      simp only [Except.bind, find?_eq_firstNamed]
      exact items.firstNamed_kept name

end SectionWalk

namespace Session

variable (width : AddressWidth) (ident : Option (List UInt8)) (table : SegmentTable)

theorem build_isPrefix (kept : earlier.KeptBy later) :
    (build (.elf earlier width ident table)).value.1.table.toList <+:
      (build (.elf later width ident table)).value.1.table.toList := by
  rw [value_build_elf, value_build_elf]
  exact SegmentTable.load_isPrefix kept .empty

theorem build_of_kept (kept : earlier.KeptBy later)
    (succeeds : (build (.elf earlier width ident table)).value.2 = .ok ()) :
    (build (.elf later width ident table)).value.2 = .ok () ∧
      (build (.elf later width ident table)).value.1.table =
        (build (.elf earlier width ident table)).value.1.table := by
  rw [value_build_elf] at succeeds
  rw [value_build_elf, value_build_elf]
  cases loaded : (SegmentTable.empty.load earlier).value.2 with
  | error error =>
      rw [loaded] at succeeds
      cases succeeds
  | ok count =>
      obtain ⟨same, again⟩ := SegmentTable.load_of_kept kept loaded
      exact ⟨by rw [again]; rfl, same⟩

end Session

end ElfTables

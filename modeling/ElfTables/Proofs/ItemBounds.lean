import ElfTables.Proofs.CheckedWords
import ElfTables.Proofs.SectionScans

/-!
How many items of a walk are still to come. Its bound holds at every point, gets smaller with each
item and says exactly when the walk has ended; and the index that it is taken from never leaves the
64-bit words (`SectionWalk.bounded_at_every_point`).
-/
namespace ElfTables

namespace SectionWalk

variable {walk rest : SectionWalk} {item : Except QueryError Section}

/-- Every section still to come can be read. -/
def Complete (walk : SectionWalk) : Prop :=
  ∀ index, walk.index ≤ index → index < walk.count →
    ∃ entry, walk.source.HasSection walk.names index entry

/-- What a bound on the items still to come has to keep at one point of a walk. -/
structure Bounded (walk : SectionWalk) (bound : Nat) : Prop where
  sound : walk.toList.length ≤ bound
  exact_of_complete : walk.Complete → walk.toList.length = bound
  decreases : ∀ item rest, walk.next? = some (item, rest) →
    ∃ less, rest.bounds = (0, some less) ∧ less < bound
  zero_iff_ended : bound = 0 ↔ walk.next? = none
  zero_iff_silent : bound = 0 ↔ ∀ later, walk.answer later = none
  exhausts : ∀ later, walk.answer (bound + later) = none

theorem next?_eq_none_iff : walk.next? = none ↔ walk.remaining = 0 := by
  constructor
  · intro ended
    rw [remaining]
    by_contra more
    have inside : walk.index < walk.count := by omega
    cases found : sectionAt walk.source walk.names walk.index with
    | ok entry =>
        rw [next?_of_ok inside found] at ended
        cases ended
    | error error =>
        rw [next?_of_error inside found] at ended
        cases ended
  · intro none_left
    exact next?_of_ended (Nat.le_of_sub_eq_zero none_left)

theorem next?_cases (step : walk.next? = some (item, rest)) :
    walk.index < walk.count ∧
      ((∃ entry, item = .ok entry ∧ rest = { walk with index := walk.index + 1 }) ∨
        ∃ error, item = .error error ∧ rest = { walk with index := walk.count }) := by
  have inside : walk.index < walk.count := by
    by_contra ended
    rw [next?_of_ended (Nat.le_of_not_lt ended)] at step
    cases step
  refine ⟨inside, ?_⟩
  cases found : sectionAt walk.source walk.names walk.index with
  | ok entry =>
      rw [next?_of_ok inside found] at step
      cases step
      exact Or.inl ⟨entry, rfl, rfl⟩
  | error error =>
      rw [next?_of_error inside found] at step
      cases step
      exact Or.inr ⟨error, rfl, rfl⟩

theorem toList_eq_nil_iff : walk.toList = [] ↔ walk.next? = none := by
  constructor
  · intro empty
    rcases step : walk.next? with _ | ⟨item, rest⟩
    · rfl
    · rw [toList_of_some step] at empty
      cases empty
  · exact toList_of_none

theorem length_toList_le_remaining (walk : SectionWalk) :
    walk.toList.length ≤ walk.remaining := by
  obtain ⟨entries, _, ending⟩ := walk.toList_spec
  rcases ending with ⟨items, full⟩ | ⟨error, items, short, _⟩
  · rw [items, List.length_map, full]
  · rw [items, List.length_append, List.length_map]
    exact short

theorem length_toList_of_complete (complete : walk.Complete) :
    walk.toList.length = walk.remaining := by
  obtain ⟨entries, _, ending⟩ := walk.toList_spec
  rcases ending with ⟨items, full⟩ | ⟨error, _, short, failed⟩
  · rw [items, List.length_map, full]
  · rw [remaining] at short
    obtain ⟨entry, has⟩ := complete (walk.index + entries.length) (by omega) (by omega)
    rw [has.sectionAt_eq] at failed
    cases failed

theorem answer_of_length_le {calls : Nat} (past : walk.toList.length ≤ calls) :
    walk.answer calls = none := by
  rw [answer_eq_getElem?]
  exact List.getElem?_eq_none past

theorem bounded_remaining (walk : SectionWalk) : walk.Bounded walk.remaining where
  sound := walk.length_toList_le_remaining
  exact_of_complete := length_toList_of_complete
  decreases item rest step := ⟨rest.remaining, rfl, remaining_lt_of_next? step⟩
  zero_iff_ended := next?_eq_none_iff.symm
  zero_iff_silent := by
    constructor
    · intro none_left later
      apply answer_of_length_le
      rw [toList_of_none (next?_eq_none_iff.mpr none_left)]
      exact Nat.zero_le later
    · intro silent
      have empty := silent 0
      rw [answer_eq_getElem?, List.getElem?_eq_none_iff, Nat.le_zero, List.length_eq_zero_iff,
        toList_eq_nil_iff] at empty
      exact next?_eq_none_iff.mp empty
  exhausts later := answer_of_length_le
    (Nat.le_trans walk.length_toList_le_remaining (Nat.le_add_right _ later))

/-- The index and the count of a walk as 64-bit words. -/
structure Cursor where
  index : UInt64
  count : UInt64
  deriving DecidableEq, Repr

namespace Cursor

def bound (cursor : Cursor) : UInt64 := cappedDifference cursor.count cursor.index

def behind? (cursor : Cursor) (item : Except QueryError Section) : Option Cursor :=
  match item with
  | .ok _ => (checkedSum cursor.index 1).map fun index => { cursor with index }
  | .error _ => some { cursor with index := cursor.count }

structure Tracks (cursor : Cursor) (walk : SectionWalk) : Prop where
  index_eq : cursor.index.toNat = walk.index
  count_eq : cursor.count.toNat = walk.count

variable {cursor : Cursor}

theorem Tracks.toNat_bound (tracks : cursor.Tracks walk) :
    cursor.bound.toNat = walk.remaining := by
  rw [bound, toNat_cappedDifference, tracks.index_eq, tracks.count_eq, remaining]

theorem Tracks.behind (tracks : cursor.Tracks walk) (step : walk.next? = some (item, rest)) :
    ∃ after, cursor.behind? item = some after ∧ after.Tracks rest := by
  obtain ⟨inside, ⟨entry, rfl, rfl⟩ | ⟨error, rfl, rfl⟩⟩ := next?_cases step
  · have small : walk.index + 1 < 2 ^ 64 := by
      have bound := cursor.count.toNat_lt
      rw [tracks.count_eq] at bound
      omega
    have value : (UInt64.ofNat (walk.index + 1)).toNat = walk.index + 1 :=
      UInt64.toNat_ofNat_of_lt' small
    have sum : checkedSum cursor.index 1 = some (UInt64.ofNat (walk.index + 1)) := by
      rw [checkedSum_eq_some_iff, value, tracks.index_eq]
      rfl
    refine ⟨{ cursor with index := UInt64.ofNat (walk.index + 1) }, ?_, value, tracks.count_eq⟩
    rw [behind?, sum, Option.map_some]
  · exact ⟨_, rfl, tracks.count_eq, tracks.count_eq⟩

theorem Tracks.advance (tracks : cursor.Tracks walk) :
    ∃ after : Cursor, after.Tracks walk.advance.2 := by
  rcases step : walk.next? with _ | ⟨item, rest⟩
  · refine ⟨cursor, ?_⟩
    simp only [SectionWalk.advance, step]
    exact tracks
  · obtain ⟨after, _, follows⟩ := tracks.behind step
    refine ⟨after, ?_⟩
    simp only [SectionWalk.advance, step]
    exact follows

theorem Tracks.advanced (tracks : cursor.Tracks walk) (calls : Nat) :
    ∃ after : Cursor, after.Tracks (walk.advanced calls) := by
  induction calls generalizing walk cursor with
  | zero => exact ⟨cursor, tracks⟩
  | succ calls ih =>
      obtain ⟨after, follows⟩ := tracks.advance
      exact ih follows

end Cursor

/-- A walk over any number of sections that is a 64-bit word gives at every point a bound on the
items still to come: no fewer than there are, exactly as many if every one of them can be read, one
less at least behind each item, and zero just at the end, which it therefore reaches. Computed with
64-bit words it is the same, and no index on the way wraps around. -/
theorem bounded_at_every_point {source : Source} {names count : Nat}
    (named : source.nameTable = .ok names) (counted : source.sectionCount = .ok count)
    (fits : count < 2 ^ 64) :
    ∃ start, SectionWalk.start source = .ok start ∧ ∀ calls,
      let walk := start.advanced calls
      ∃ bound, walk.bounds = (0, some bound) ∧ walk.Bounded bound ∧
        ∃ cursor : Cursor, cursor.Tracks walk ∧ cursor.bound.toNat = bound ∧
          ∀ item rest, walk.next? = some (item, rest) →
            ∃ after, cursor.behind? item = some after ∧ after.Tracks rest := by
  refine ⟨⟨source, names, 1, count⟩, start_eq_ok_iff.mpr ⟨names, count, named, counted, rfl⟩, ?_⟩
  intro calls walk
  have begins : Cursor.Tracks ⟨1, UInt64.ofNat count⟩ ⟨source, names, 1, count⟩ :=
    ⟨rfl, UInt64.toNat_ofNat_of_lt' fits⟩
  obtain ⟨cursor, tracks⟩ := begins.advanced calls
  refine ⟨walk.remaining, rfl, walk.bounded_remaining, cursor, tracks, tracks.toNat_bound, ?_⟩
  intro item rest step
  exact tracks.behind step

theorem bounded_at_every_point_partlyNamed :
    ∃ start, SectionWalk.start (Session.partlyNamed (.ok 5) (.ok (2 ^ 64 - 1))) = .ok start ∧
      (start.advanced 2).bounds = (0, some (2 ^ 64 - 4)) ∧
      (start.advanced 2).toList.length ≤ 2 ^ 64 - 4 ∧
      (start.advanced 3).bounds = (0, some 0) ∧
      ∀ later, (start.advanced 3).answer later = none := by
  have named : (Session.partlyNamed (.ok 5) (.ok (2 ^ 64 - 1))).nameTable = .ok 5 := rfl
  obtain ⟨start, started, points⟩ := bounded_at_every_point named rfl (by decide)
  have begins : start = ⟨Session.partlyNamed (.ok 5) (.ok (2 ^ 64 - 1)), 5, 1, 2 ^ 64 - 1⟩ :=
    (Except.ok.inj started).symm
  have far : (start.advanced 2).bounds = (0, some (2 ^ 64 - 4)) := by
    rw [begins]
    decide +kernel
  have ended : (start.advanced 3).bounds = (0, some 0) := by
    rw [begins]
    decide +kernel
  obtain ⟨_, here, bounded, _⟩ := points 2
  obtain ⟨_, there, exhausted, _⟩ := points 3
  cases far.symm.trans here
  cases ended.symm.trans there
  exact ⟨start, started, far, bounded.sound, ended, exhausted.zero_iff_silent.mp rfl⟩

end SectionWalk

end ElfTables

namespace ElfTables

/-- No range is empty, and each ends before the next begins. -/
def AscendingFrom (least : Nat) : List (Nat × Nat) → Prop
  | [] => True
  | (first, last) :: rest => least ≤ first ∧ first ≤ last ∧ AscendingFrom (last + 1) rest

instance decidableAscendingFrom :
    ∀ (least : Nat) (ranges : List (Nat × Nat)), Decidable (AscendingFrom least ranges)
  | _, [] => inferInstanceAs (Decidable True)
  | _, (_, last) :: rest =>
    have := decidableAscendingFrom (last + 1) rest
    inferInstanceAs (Decidable (_ ∧ _ ∧ _))

structure CodePoints where
  ranges : Array (Nat × Nat)
  ascending : AscendingFrom 0 ranges.toList := by decide +kernel
  deriving DecidableEq, Repr

namespace CodePoints

def search (ranges : Array (Nat × Nat)) (code low high : Nat) (bounded : high ≤ ranges.size) :
    Bool :=
  if nonempty : low < high then
    let middle := (low + high) / 2
    have inside : middle < ranges.size := by omega
    if code < ranges[middle].1 then search ranges code low middle (by omega)
    else if ranges[middle].2 < code then search ranges code (middle + 1) high bounded
    else true
  else false
termination_by high - low

def contains (set : CodePoints) (c : Char) : Bool :=
  search set.ranges c.toNat 0 set.ranges.size (Nat.le_refl _)

instance : Membership Char CodePoints where
  mem set c := ∃ range ∈ set.ranges, range.1 ≤ c.toNat ∧ c.toNat ≤ range.2

theorem exists_range_of_search {ranges : Array (Nat × Nat)} {code low high : Nat}
    {bounded : high ≤ ranges.size} (found : search ranges code low high bounded = true) :
    ∃ range ∈ ranges, range.1 ≤ code ∧ code ≤ range.2 := by
  fun_induction search with
  | case1 _ _ _ _ _ _ _ ih => exact ih found
  | case2 _ _ _ _ _ _ _ _ ih => exact ih found
  | case3 low high bounded _ middle inside notBelow notAbove =>
    exact ⟨ranges[middle], Array.getElem_mem inside, by omega, by omega⟩
  | case4 => simp at found

theorem le_of_ascendingFrom {least : Nat} {ranges : List (Nat × Nat)}
    (ascending : AscendingFrom least ranges) :
    ∀ range ∈ ranges, least ≤ range.1 ∧ range.1 ≤ range.2 := by
  induction ranges generalizing least with
  | nil => exact nofun
  | cons head rest ih =>
    rcases ascending with ⟨bound, nonempty, others⟩
    intro range member
    rcases List.mem_cons.mp member with rfl | later
    · exact ⟨bound, nonempty⟩
    · have behind := ih others range later
      omega

theorem pairwise_of_ascendingFrom {least : Nat} {ranges : List (Nat × Nat)}
    (ascending : AscendingFrom least ranges) :
    ranges.Pairwise fun range next => range.2 < next.1 := by
  induction ranges generalizing least with
  | nil => exact .nil
  | cons head rest ih =>
    have others := ascending.2.2
    exact .cons (fun next later => (le_of_ascendingFrom others next later).1) (ih others)

theorem first_le_last (set : CodePoints) {place : Nat} (inside : place < set.ranges.size) :
    set.ranges[place].1 ≤ set.ranges[place].2 :=
  (le_of_ascendingFrom set.ascending _ (Array.getElem_mem_toList inside)).2

theorem last_lt_first (set : CodePoints) {place later : Nat} (earlier : place < later)
    (inside : later < set.ranges.size) : set.ranges[place].2 < set.ranges[later].1 :=
  List.pairwise_iff_getElem.mp (pairwise_of_ascendingFrom set.ascending) place later
    (by simp; omega) (by simpa using inside) earlier

theorem search_of_range {set : CodePoints} {code low high : Nat}
    {bounded : high ≤ set.ranges.size} {place : Nat} (notBelow : low ≤ place)
    (notAbove : place < high) (first : set.ranges[place].1 ≤ code)
    (last : code ≤ set.ranges[place].2) : search set.ranges code low high bounded = true := by
  fun_induction search with
  | case1 low high bounded _ middle inside below ih =>
    -- The place stays between the bounds, since no range behind the middle begins before it.
    apply ih notBelow _ first last
    rcases Nat.lt_trichotomy place middle with before | same | behind
    · exact before
    · subst same; omega
    · have := set.first_le_last inside
      have := set.last_lt_first behind (by omega)
      omega
  | case2 low high bounded _ middle inside _ above ih =>
    apply ih _ notAbove first last
    rcases Nat.lt_trichotomy place middle with before | same | behind
    · have := set.first_le_last inside
      have := set.last_lt_first before inside
      omega
    · subst same; omega
    · omega
  | case3 => rfl
  | case4 => omega

theorem contains_iff {set : CodePoints} {c : Char} : set.contains c = true ↔ c ∈ set := by
  constructor
  · exact exists_range_of_search
  · intro member
    rcases member with ⟨range, member, first, last⟩
    rcases Array.getElem_of_mem member with ⟨place, inside, rfl⟩
    exact search_of_range (Nat.zero_le _) inside first last

end CodePoints

end ElfTables

import ElfTables.Proofs.AddressTranslation
import Mathlib

/-!
Which segment answers for an address. It is the first whose bounds hold the address as natural
numbers (`translation_decided`). Where no two segments store a byte for one address, the bound
behind the last byte of an earlier segment decides when another one answers
(`answered_by_owner_or_bound`).
-/
namespace ElfTables

namespace Segment

/-- The addresses between the bounds of a segment, the upper one included. -/
def reach (segment : Segment) : Set Nat :=
  Set.Icc segment.vaddr.toNat (segment.vaddr.toNat + segment.fileSize.toNat)

def stored (segment : Segment) : Set Nat :=
  Set.Ico segment.vaddr.toNat (segment.vaddr.toNat + segment.fileSize.toNat)

def bounds (segment : Segment) : UInt64 × UInt64 := (segment.vaddr, segment.fileSize)

def placement (segment : Segment) : UInt64 × UInt64 × UInt64 :=
  (segment.fileOffset, segment.bounds)

theorem covers_iff_mem_reach (segment : Segment) (address : UInt64) :
    segment.covers address = true ↔ address.toNat ∈ segment.reach :=
  segment.covers_iff address

theorem covers_iff_of_beyond {segment : Segment}
    (beyond : 2 ^ 64 ≤ segment.vaddr.toNat + segment.fileSize.toNat) (address : UInt64) :
    segment.covers address = true ↔ segment.vaddr ≤ address := by
  have small := address.toNat_lt
  rw [covers_iff, UInt64.le_iff_toNat_le]
  constructor
  · intro between
    exact between.1
  · intro lower
    exact ⟨lower, by omega⟩

end Segment

/-- Where the segments that reach an address stand in the list. -/
def reaching (segments : List Segment) (address : Nat) : Set Nat :=
  {index | ∃ segment, segments[index]? = some segment ∧ address ∈ segment.reach}

section Answering

variable {segments others : List Segment} {address : UInt64} {index : Nat}

theorem lt_length_of_mem_reaching {address : Nat} (member : index ∈ reaching segments address) :
    index < segments.length := by
  obtain ⟨segment, present, _⟩ := member
  exact (List.getElem?_eq_some_iff.mp present).1

theorem mem_reaching_iff (inside : index < segments.length) :
    index ∈ reaching segments address.toNat ↔ segments[index].covers address = true := by
  rw [Segment.covers_iff_mem_reach]
  constructor
  · intro member
    obtain ⟨segment, present, reached⟩ := member
    rw [List.getElem?_eq_getElem inside] at present
    rwa [Option.some.inj present]
  · intro reached
    exact ⟨segments[index], List.getElem?_eq_getElem inside, reached⟩

theorem coveringIndex?_eq_some_iff :
    coveringIndex? segments address = some index ↔
      IsLeast (reaching segments address.toNat) index := by
  rw [coveringIndex?, List.findIdx?_eq_some_iff_getElem]
  constructor
  · intro found
    obtain ⟨inside, covered, earlier⟩ := found
    refine ⟨(mem_reaching_iff inside).mpr covered, ?_⟩
    intro other member
    by_contra before
    have below := Nat.lt_of_not_le before
    exact earlier other below ((mem_reaching_iff (below.trans inside)).mp member)
  · intro least
    have inside := lt_length_of_mem_reaching least.1
    refine ⟨inside, (mem_reaching_iff inside).mp least.1, ?_⟩
    intro other before covered
    have member := (mem_reaching_iff (before.trans inside)).mpr covered
    exact absurd (least.2 member) (Nat.not_le.mpr before)

theorem coveringSegment?_eq_bind (segments : List Segment) (address : UInt64) :
    coveringSegment? segments address =
      (coveringIndex? segments address).bind fun index => segments[index]? :=
  List.find?_eq_bind_findIdx?_getElem?

theorem coveringSegment?_eq_some_iff {segment : Segment} :
    coveringSegment? segments address = some segment ↔
      ∃ index, IsLeast (reaching segments address.toNat) index ∧
        segments[index]? = some segment := by
  rw [coveringSegment?_eq_bind, Option.bind_eq_some_iff]
  simp only [coveringIndex?_eq_some_iff]

theorem coveringSegment?_eq_none_iff :
    coveringSegment? segments address = none ↔
      ∀ segment ∈ segments, address.toNat ∉ segment.reach := by
  simp only [coveringSegment?, List.find?_eq_none, Segment.covers_iff_mem_reach]

theorem coveringIndex?_eq_findIdx?_bounds (segments : List Segment) (address : UInt64) :
    coveringIndex? segments address =
      (segments.map Segment.bounds).findIdx? fun bounds =>
        bounds.1 ≤ address && address - bounds.1 ≤ bounds.2 := by
  rw [List.findIdx?_map]
  rfl

theorem fileOffset?_eq_find?_placement (segments : List Segment) (address : UInt64) :
    fileOffset? segments address =
      ((segments.map Segment.placement).find? fun placement =>
        placement.2.1 ≤ address && address - placement.2.1 ≤ placement.2.2).map fun placement =>
          placement.1 + (address - placement.2.1) := by
  rw [List.find?_map, Option.map_map]
  rfl

theorem coveringIndex?_congr (same : others.map Segment.bounds = segments.map Segment.bounds) :
    coveringIndex? others address = coveringIndex? segments address := by
  rw [coveringIndex?_eq_findIdx?_bounds, same, ← coveringIndex?_eq_findIdx?_bounds]

theorem fileOffset?_congr
    (same : others.map Segment.placement = segments.map Segment.placement) :
    fileOffset? others address = fileOffset? segments address := by
  rw [fileOffset?_eq_find?_placement, same, ← fileOffset?_eq_find?_placement]

theorem isSome_fileOffset?_iff :
    (fileOffset? segments address).isSome ↔ (coveringSegment? segments address).isSome := by
  rw [fileOffset?, Option.isSome_map]

theorem toNat_fileOffset?_of_covering {segment : Segment}
    (found : coveringSegment? segments address = some segment) :
    segment.vaddr ≤ address ∧
      (fileOffset? segments address).map UInt64.toNat =
        some ((segment.fileOffset.toNat + (address.toNat - segment.vaddr.toNat)) % 2 ^ 64) := by
  have covered := covers_of_coveringSegment? found
  constructor
  · exact UInt64.le_iff_toNat_le.mpr ((segment.covers_iff address).mp covered).1
  · rw [fileOffset?, found, Option.map_some, Option.map_some, Segment.toNat_offsetAt covered]

end Answering

/-- The first segment that reaches an address answers, and none does only where none reaches it.
The answer is the segment's own offset, moved as far as the address lies behind the segment's
first, modulo `2 ^ 64`. Codes, permissions and sizes in memory play no part in it, and offsets
none in which segment answers. -/
theorem translation_decided (segments : List Segment) (address : UInt64) :
    (∀ index, coveringIndex? segments address = some index ↔
      IsLeast (reaching segments address.toNat) index) ∧
    (∀ segment, coveringSegment? segments address = some segment ↔
      ∃ index, IsLeast (reaching segments address.toNat) index ∧
        segments[index]? = some segment) ∧
    (coveringSegment? segments address = none ↔
      ∀ segment ∈ segments, address.toNat ∉ segment.reach) ∧
    (∀ segment : Segment, 2 ^ 64 ≤ segment.vaddr.toNat + segment.fileSize.toNat →
      (segment.covers address = true ↔ segment.vaddr ≤ address)) ∧
    ((fileOffset? segments address).isSome ↔ (coveringSegment? segments address).isSome) ∧
    (∀ segment, coveringSegment? segments address = some segment →
      segment.vaddr ≤ address ∧
        (fileOffset? segments address).map UInt64.toNat =
          some ((segment.fileOffset.toNat + (address.toNat - segment.vaddr.toNat)) % 2 ^ 64)) ∧
    ∀ others : List Segment,
      (others.map Segment.bounds = segments.map Segment.bounds →
        coveringIndex? others address = coveringIndex? segments address) ∧
      (others.map Segment.placement = segments.map Segment.placement →
        fileOffset? others address = fileOffset? segments address) := by
  refine ⟨?first, ?segment, ?nowhere, ?beyond, ?answers, ?offset, ?others⟩
  case first =>
    intro index
    exact coveringIndex?_eq_some_iff
  case segment =>
    intro segment
    exact coveringSegment?_eq_some_iff
  case nowhere => exact coveringSegment?_eq_none_iff
  case beyond =>
    intro segment beyond
    exact Segment.covers_iff_of_beyond beyond address
  case answers => exact isSome_fileOffset?_iff
  case offset =>
    intro segment found
    exact toNat_fileOffset?_of_covering found
  case others =>
    intro others
    exact ⟨coveringIndex?_congr, fileOffset?_congr⟩

def topSegments : List Segment :=
  [⟨1, ⟨5⟩, 0xfffffffffffffffe, 0xfffffffffffffff0, 0x100, 0x100⟩,
    ⟨1, ⟨6⟩, 0x4000, 0xfffffffffffffff8, 0x10, 0x10⟩]

theorem translation_decided_top :
    coveringIndex? topSegments 0xffffffffffffffff = some 0 ∧
      (fileOffset? topSegments 0xffffffffffffffff).map UInt64.toNat = some 13 ∧
      coveringSegment? topSegments 0 = none := by
  obtain ⟨first, segment, _, _, _, offset, _⟩ := translation_decided topSegments 0xffffffffffffffff
  have least : IsLeast (reaching topSegments (0xffffffffffffffff : UInt64).toNat) 0 :=
    ⟨⟨_, rfl, by constructor <;> decide⟩, fun _ _ => Nat.zero_le _⟩
  have found := (segment _).mpr ⟨0, least, rfl⟩
  refine ⟨(first 0).mpr least, (offset _ found).2, ?_⟩
  obtain ⟨_, _, nowhere, _⟩ := translation_decided topSegments 0
  apply nowhere.mpr
  intro segment member reached
  have above : ∀ other ∈ topSegments, 0 < other.vaddr.toNat := by decide
  exact absurd reached.1 (Nat.not_le.mpr (above segment member))

namespace Segment

variable {segment other : Segment} {address : Nat}

theorem mem_reach_iff :
    address ∈ segment.reach ↔
      address ∈ segment.stored ∨ segment.vaddr.toNat + segment.fileSize.toNat = address := by
  simp only [reach, stored, Set.mem_Icc, Set.mem_Ico]
  omega

theorem fileSize_eq_zero_or_eq_vaddr (apart : Disjoint other.stored segment.stored)
    (stored : address ∈ segment.stored)
    (ends : other.vaddr.toNat + other.fileSize.toNat = address) :
    other.fileSize = 0 ∨ address = segment.vaddr.toNat := by
  by_contra neither
  obtain ⟨nonempty, behind⟩ := not_or.mp neither
  rw [← UInt64.toNat_inj, UInt64.toNat_zero] at nonempty
  obtain ⟨lower, upper⟩ := stored
  have here : address - 1 ∈ other.stored := ⟨by omega, by omega⟩
  have there : address - 1 ∈ segment.stored := ⟨by omega, by omega⟩
  exact Set.disjoint_left.mp apart here there

end Segment

/-- No two segments store a byte for one address. -/
def StoredApart (segments : List Segment) : Prop :=
  segments.Pairwise fun first second => Disjoint first.stored second.stored

instance (first second : Segment) : Decidable (Disjoint first.stored second.stored) :=
  decidable_of_iff _ Set.Ico_disjoint_Ico.symm

instance (segments : List Segment) : Decidable (StoredApart segments) :=
  inferInstanceAs (Decidable (List.Pairwise _ segments))

/-- Where in front of `index` the segments stand whose upper bound is this address. -/
def endingAt (segments : List Segment) (index address : Nat) : Set Nat :=
  {earlier | earlier < index ∧ ∃ segment, segments[earlier]? = some segment ∧
    segment.vaddr.toNat + segment.fileSize.toNat = address}

namespace StoredApart

variable {segments : List Segment} {index other address : Nat} {segment : Segment}

theorem disjoint (apart : StoredApart segments) {neighbour : Segment} (different : index ≠ other)
    (here : segments[index]? = some segment) (there : segments[other]? = some neighbour) :
    Disjoint segment.stored neighbour.stored := by
  obtain ⟨inside, rfl⟩ := List.getElem?_eq_some_iff.mp here
  obtain ⟨within, rfl⟩ := List.getElem?_eq_some_iff.mp there
  have pairs := List.pairwise_iff_getElem.mp apart
  rcases Nat.lt_or_gt_of_ne different with before | behind
  · exact pairs index other inside within before
  · exact (pairs other index within inside behind).symm

theorem mem_reaching_iff (apart : StoredApart segments) (present : segments[index]? = some segment)
    (stored : address ∈ segment.stored) :
    other ∈ reaching segments address ↔
      other = index ∨ ∃ neighbour, segments[other]? = some neighbour ∧
        neighbour.vaddr.toNat + neighbour.fileSize.toNat = address := by
  constructor
  · intro reached
    obtain ⟨neighbour, there, near⟩ := reached
    by_cases same : other = index
    · exact Or.inl same
    · refine Or.inr ⟨neighbour, there, ?_⟩
      rcases Segment.mem_reach_iff.mp near with also | ends
      · have disjoint := apart.disjoint same there present
        exact absurd stored (Set.disjoint_left.mp disjoint also)
      · exact ends
  · intro either
    rcases either with rfl | ⟨neighbour, there, ends⟩
    · exact ⟨segment, present, Segment.mem_reach_iff.mpr (Or.inl stored)⟩
    · exact ⟨neighbour, there, Segment.mem_reach_iff.mpr (Or.inr ends)⟩

theorem isLeast_reaching_of_owner (apart : StoredApart segments)
    (present : segments[index]? = some segment) (stored : address ∈ segment.stored)
    (free : endingAt segments index address = ∅) :
    IsLeast (reaching segments address) index := by
  refine ⟨(apart.mem_reaching_iff present stored).mpr (Or.inl rfl), ?_⟩
  intro other reached
  by_contra before
  rcases (apart.mem_reaching_iff present stored).mp reached with rfl | ends
  · exact before (Nat.le_refl _)
  · have member : other ∈ endingAt segments index address := ⟨Nat.lt_of_not_le before, ends⟩
    rw [free] at member
    exact member

theorem isLeast_reaching_of_ending (apart : StoredApart segments)
    (present : segments[index]? = some segment) (stored : address ∈ segment.stored)
    (least : IsLeast (endingAt segments index address) other) :
    IsLeast (reaching segments address) other := by
  refine ⟨(apart.mem_reaching_iff present stored).mpr (Or.inr least.1.2), ?_⟩
  intro further reached
  rcases (apart.mem_reaching_iff present stored).mp reached with rfl | ends
  · exact Nat.le_of_lt least.1.1
  · by_cases before : further < index
    · exact least.2 ⟨before, ends⟩
    · exact Nat.le_trans (Nat.le_of_lt least.1.1) (Nat.le_of_not_lt before)

theorem isLeast_reaching_cases (apart : StoredApart segments)
    (present : segments[index]? = some segment) (stored : address ∈ segment.stored)
    (found : IsLeast (reaching segments address) other) :
    other = index ∨ IsLeast (endingAt segments index address) other := by
  rcases Set.eq_empty_or_nonempty (endingAt segments index address) with free | ends
  · exact Or.inl (found.unique (apart.isLeast_reaching_of_owner present stored free))
  · have least := isLeast_csInf ends
    have same := found.unique (apart.isLeast_reaching_of_ending present stored least)
    exact Or.inr (same ▸ least)

end StoredApart

/-- Where segments are stored apart, an address resolves through the segment that stores its byte,
unless an earlier one ends right in front of it: then through the first of those. Such a one
stores nothing, or the address is the first one of the segment that stores its byte. -/
theorem answered_by_owner_or_bound {segments : List Segment} (apart : StoredApart segments)
    {index : Nat} {segment : Segment} (present : segments[index]? = some segment)
    {address : UInt64} (stored : address.toNat ∈ segment.stored) :
    (endingAt segments index address.toNat = ∅ →
      coveringIndex? segments address = some index ∧
        coveringSegment? segments address = some segment) ∧
    (∀ earlier, IsLeast (endingAt segments index address.toNat) earlier →
      ∃ other, segments[earlier]? = some other ∧
        coveringIndex? segments address = some earlier ∧
        coveringSegment? segments address = some other ∧
        (other.fileSize = 0 ∨ address = segment.vaddr)) ∧
    ∀ found other, coveringIndex? segments address = some found →
      segments[found]? = some other → found ≠ index →
      found < index ∧
        ((other.fileSize = 0 ∧ address = other.vaddr) ∨
          (address = segment.vaddr ∧
            other.vaddr.toNat + other.fileSize.toNat = segment.vaddr.toNat)) := by
  refine ⟨?owner, ?bound, ?wrong⟩
  case owner =>
    intro free
    have least := apart.isLeast_reaching_of_owner present stored free
    exact ⟨coveringIndex?_eq_some_iff.mpr least,
      coveringSegment?_eq_some_iff.mpr ⟨index, least, present⟩⟩
  case bound =>
    intro earlier ending
    have least := apart.isLeast_reaching_of_ending present stored ending
    obtain ⟨before, other, there, ends⟩ := ending.1
    refine ⟨other, there, coveringIndex?_eq_some_iff.mpr least,
      coveringSegment?_eq_some_iff.mpr ⟨earlier, least, there⟩, ?_⟩
    have disjoint := apart.disjoint before.ne there present
    exact (Segment.fileSize_eq_zero_or_eq_vaddr disjoint stored ends).imp_right UInt64.toNat_inj.mp
  case wrong =>
    intro found other answers there different
    have least := coveringIndex?_eq_some_iff.mp answers
    rcases apart.isLeast_reaching_cases present stored least with same | ending
    · exact absurd same different
    · obtain ⟨before, neighbour, also, ends⟩ := ending.1
      rw [there, Option.some.injEq] at also
      subst also
      refine ⟨before, ?_⟩
      have disjoint := apart.disjoint before.ne there present
      rcases Segment.fileSize_eq_zero_or_eq_vaddr disjoint stored ends with nothing | first
      · rw [nothing, UInt64.toNat_zero, Nat.add_zero] at ends
        exact Or.inl ⟨nothing, UInt64.toNat_inj.mp ends.symm⟩
      · exact Or.inr ⟨UInt64.toNat_inj.mp first, ends.trans first⟩

def neighbouringSegments : List Segment :=
  [⟨1, ⟨5⟩, 0, 0x1000, 0x500, 0x500⟩, ⟨0x6474e551, ⟨6⟩, 0, 0x1600, 0, 0⟩,
    ⟨1, ⟨6⟩, 0x800, 0x1500, 0x300, 0x400⟩]

theorem answered_by_owner_or_bound_neighbouring :
    StoredApart neighbouringSegments ∧
      coveringIndex? neighbouringSegments 0x1500 = some 0 ∧
      coveringIndex? neighbouringSegments 0x1600 = some 1 ∧
      coveringIndex? neighbouringSegments 0x1700 = some 2 := by
  have apart : StoredApart neighbouringSegments := by decide
  have first : IsLeast (endingAt neighbouringSegments 2 (0x1500 : UInt64).toNat) 0 :=
    ⟨⟨by decide, _, rfl, rfl⟩, fun _ _ => Nat.zero_le _⟩
  have second : IsLeast (endingAt neighbouringSegments 2 (0x1600 : UInt64).toNat) 1 := by
    refine ⟨⟨by decide, _, rfl, rfl⟩, ?_⟩
    intro earlier ending
    obtain ⟨_, segment, there, ends⟩ := ending
    by_contra before
    obtain rfl : earlier = 0 := by omega
    cases there
    exact absurd ends (by decide)
  have free : endingAt neighbouringSegments 2 (0x1700 : UInt64).toNat = ∅ := by
    rw [Set.eq_empty_iff_forall_notMem]
    intro earlier ending
    obtain ⟨before, segment, there, ends⟩ := ending
    have none_ends : ∀ other ∈ neighbouringSegments,
        other.vaddr.toNat + other.fileSize.toNat ≠ (0x1700 : UInt64).toNat := by decide
    exact none_ends segment (List.mem_of_getElem? there) ends
  obtain ⟨_, _, adjacent, _⟩ :=
    (answered_by_owner_or_bound apart rfl (by constructor <;> decide)).2.1 0 first
  obtain ⟨_, _, shadowed, _⟩ :=
    (answered_by_owner_or_bound apart rfl (by constructor <;> decide)).2.1 1 second
  exact ⟨apart, adjacent, shadowed,
    ((answered_by_owner_or_bound apart rfl (by constructor <;> decide)).1 free).1⟩

end ElfTables

import ElfTables.Segment.Coverage
import Mathlib

/-!
When every stored byte of every segment is found at its own offset. The first segment that covers
an address answers for all of them, so segments that share an address have to agree on where it is
stored (`roundTrips_iff_overlapsAgree`). Then, and only then, their order makes no difference
(`answersInAnyOrder_iff_overlapsAgree`).
-/
namespace ElfTables

namespace Segment

/-- The addresses that resolve through the segment, the one behind its last stored byte included,
as far as there are 64-bit addresses. -/
def addresses (segment : Segment) : Set Nat :=
  Set.Icc segment.vaddr.toNat (segment.vaddr.toNat + segment.fileSize.toNat) ∩ Set.Iio (2 ^ 64)

def SameShift (first second : Segment) : Prop :=
  (first.fileOffset.toNat - first.vaddr.toNat : ℤ) ≡
    second.fileOffset.toNat - second.vaddr.toNat [ZMOD 2 ^ 64]

theorem SameShift.refl (segment : Segment) : segment.SameShift segment := Int.ModEq.refl _

def Compatible (first second : Segment) : Prop :=
  (first.addresses ∩ second.addresses).Nonempty → first.SameShift second

instance : Std.Symm Compatible where
  symm first second compatible shared := by
    rw [Set.inter_comm] at shared
    exact Int.ModEq.symm (compatible shared)

theorem Compatible.of_disjoint {first second : Segment}
    (apart : Disjoint first.addresses second.addresses) : first.Compatible second := by
  intro shared
  exact absurd apart (Set.not_disjoint_iff_nonempty_inter.mpr shared)

theorem disjoint_of_lt {first second : Segment}
    (behind : first.vaddr.toNat + first.fileSize.toNat < second.vaddr.toNat) :
    Disjoint first.addresses second.addresses := by
  rw [Set.disjoint_left]
  intro address here there
  have upper := here.1.2
  have lower := there.1.1
  omega

theorem covers_iff_mem_addresses (segment : Segment) (address : UInt64) :
    segment.covers address = true ↔ address.toNat ∈ segment.addresses := by
  rw [covers_iff]
  constructor
  · intro bounds
    exact ⟨bounds, address.toNat_lt⟩
  · intro member
    exact member.1

theorem covers_ofNat_add (segment : Segment) {distance : Nat}
    (near : distance ≤ segment.fileSize.toNat) (small : segment.vaddr.toNat + distance < 2 ^ 64) :
    (UInt64.ofNat (segment.vaddr.toNat + distance)).toNat = segment.vaddr.toNat + distance ∧
      segment.covers (UInt64.ofNat (segment.vaddr.toNat + distance)) = true := by
  have value : (UInt64.ofNat (segment.vaddr.toNat + distance)).toNat =
      segment.vaddr.toNat + distance := UInt64.toNat_ofNat_of_lt' small
  refine ⟨value, ?_⟩
  rw [covers_iff, value]
  exact ⟨Nat.le_add_right _ _, Nat.add_le_add_left near _⟩

theorem toNat_offsetAt {segment : Segment} {address : UInt64}
    (covered : segment.covers address = true) :
    (segment.offsetAt address).toNat =
      (segment.fileOffset.toNat + (address.toNat - segment.vaddr.toNat)) % 2 ^ 64 := by
  have lower : segment.vaddr ≤ address :=
    UInt64.le_iff_toNat_le.mpr ((segment.covers_iff address).mp covered).1
  rw [offsetAt, UInt64.toNat_add, UInt64.toNat_sub_of_le _ _ lower]

theorem offset_eq_iff_sameShift {first second : Segment} {address : Nat}
    (here : address ∈ first.addresses) (there : address ∈ second.addresses) :
    (first.fileOffset.toNat + (address - first.vaddr.toNat)) % 2 ^ 64 =
        (second.fileOffset.toNat + (address - second.vaddr.toNat)) % 2 ^ 64 ↔
      first.SameShift second := by
  have moved : ∀ segment : Segment, address ∈ segment.addresses →
      ((segment.fileOffset.toNat + (address - segment.vaddr.toNat) : Nat) : ℤ) =
        segment.fileOffset.toNat - segment.vaddr.toNat + address := by
    intro segment member
    rw [Nat.cast_add, Nat.cast_sub member.1.1]
    ring
  calc
    _ ↔ ((first.fileOffset.toNat + (address - first.vaddr.toNat) : Nat) : ℤ) ≡
          (second.fileOffset.toNat + (address - second.vaddr.toNat) : Nat) [ZMOD (2 ^ 64 : Nat)] :=
      (Int.natCast_modEq_iff).symm
    _ ↔ first.SameShift second := by
      rw [moved first here, moved second there]
      exact ⟨Int.ModEq.add_right_cancel' _, Int.ModEq.add_right _⟩

end Segment

/-- Each address of each segment resolves to the offset as far behind the segment's own as the
address is behind its first, modulo `2 ^ 64`. -/
def RoundTrips (segments : List Segment) : Prop :=
  ∀ segment ∈ segments, ∀ distance ≤ segment.fileSize.toNat,
    segment.vaddr.toNat + distance < 2 ^ 64 →
      (fileOffset? segments (UInt64.ofNat (segment.vaddr.toNat + distance))).map UInt64.toNat =
        some ((segment.fileOffset.toNat + distance) % 2 ^ 64)

/-- Segments that have an address in common are shifted alike. -/
def OverlapsAgree (segments : List Segment) : Prop :=
  ∀ first ∈ segments, ∀ second ∈ segments, first.Compatible second

section Translation

variable {segments : List Segment} {segment : Segment}

theorem covers_of_coveringSegment? {address : UInt64}
    (found : coveringSegment? segments address = some segment) :
    segment.covers address = true := by
  rw [coveringSegment?] at found
  have covered := List.find?_some found
  exact covered

theorem exists_coveringSegment? {address : UInt64} (member : segment ∈ segments)
    (covered : segment.covers address = true) :
    ∃ found ∈ segments, coveringSegment? segments address = some found ∧
      found.covers address = true := by
  cases search : coveringSegment? segments address with
  | none =>
      rw [coveringSegment?, List.find?_eq_none] at search
      exact absurd covered (search segment member)
  | some found =>
      exact ⟨found, List.mem_of_find?_eq_some search, rfl, covers_of_coveringSegment? search⟩

theorem fileOffset?_of_overlapsAgree (agree : OverlapsAgree segments) {address : UInt64}
    (member : segment ∈ segments) (covered : segment.covers address = true) :
    (fileOffset? segments address).map UInt64.toNat =
      some ((segment.fileOffset.toNat + (address.toNat - segment.vaddr.toNat)) % 2 ^ 64) := by
  obtain ⟨found, among, search, also⟩ := exists_coveringSegment? member covered
  have here := (found.covers_iff_mem_addresses address).mp also
  have there := (segment.covers_iff_mem_addresses address).mp covered
  have alike : found.SameShift segment := agree found among segment member ⟨_, here, there⟩
  rw [fileOffset?, search, Option.map_some, Option.map_some, Segment.toNat_offsetAt also,
    (Segment.offset_eq_iff_sameShift here there).mpr alike]

theorem RoundTrips.offset_eq (trips : RoundTrips segments) (member : segment ∈ segments)
    {address : Nat} (inside : address ∈ segment.addresses) :
    (fileOffset? segments (UInt64.ofNat address)).map UInt64.toNat =
      some ((segment.fileOffset.toNat + (address - segment.vaddr.toNat)) % 2 ^ 64) := by
  obtain ⟨⟨lower, upper⟩, small⟩ := inside
  have whole : segment.vaddr.toNat + (address - segment.vaddr.toNat) = address :=
    Nat.add_sub_cancel' lower
  have found := trips segment member (address - segment.vaddr.toNat)
    (Nat.sub_le_iff_le_add'.mpr upper) (by rw [whole]; exact small)
  rwa [whole] at found

end Translation

theorem roundTrips_of_overlapsAgree {segments : List Segment} (agree : OverlapsAgree segments) :
    RoundTrips segments := by
  intro segment member distance near small
  obtain ⟨value, covered⟩ := segment.covers_ofNat_add near small
  rw [fileOffset?_of_overlapsAgree agree member covered, value, Nat.add_sub_cancel_left]

theorem overlapsAgree_of_roundTrips {segments : List Segment} (trips : RoundTrips segments) :
    OverlapsAgree segments := by
  intro first member second among overlap
  obtain ⟨address, here, there⟩ := overlap
  -- Whichever segment answers, both trips through this address got the same answer.
  rw [← Segment.offset_eq_iff_sameShift here there]
  exact Option.some.inj ((trips.offset_eq member here).symm.trans (trips.offset_eq among there))

theorem overlapsAgree_of_disjoint {segments : List Segment}
    (apart : segments.Pairwise fun first second => Disjoint first.addresses second.addresses) :
    OverlapsAgree segments := by
  have compatible := apart.imp fun disjoint => Segment.Compatible.of_disjoint disjoint
  intro first member second among
  refine compatible.forall_of_forall ?_ member among
  -- The list sets no segment against itself; with itself it always agrees.
  intro segment _ _
  exact Segment.SameShift.refl segment

/-- Every address of every segment comes back exactly when segments with an address in common are
shifted alike, and so whenever no two have one in common. -/
theorem roundTrips_iff_overlapsAgree (segments : List Segment) :
    (RoundTrips segments ↔ OverlapsAgree segments) ∧
      ((segments.Pairwise fun first second => Disjoint first.addresses second.addresses) →
        RoundTrips segments) := by
  refine ⟨⟨overlapsAgree_of_roundTrips, roundTrips_of_overlapsAgree⟩, ?_⟩
  intro apart
  exact roundTrips_of_overlapsAgree (overlapsAgree_of_disjoint apart)

def spreadSegments : List Segment :=
  [⟨1, ⟨5⟩, 0, 0x1000, 0x500, 0x600⟩, ⟨1, ⟨6⟩, 0x500, 0x2000, 0x300, 0x400⟩,
    ⟨1, ⟨4⟩, 0xfffffffffffffffe, 0xfffffffffffffff0, 0x100, 0x100⟩]

theorem roundTrips_iff_overlapsAgree_spread :
    (spreadSegments.Pairwise fun first second => Disjoint first.addresses second.addresses) ∧
      RoundTrips spreadSegments ∧ OverlapsAgree spreadSegments := by
  have ascending : spreadSegments.Pairwise fun first second =>
      first.vaddr.toNat + first.fileSize.toNat < second.vaddr.toNat := by decide
  have apart := ascending.imp fun behind => Segment.disjoint_of_lt behind
  have trips := (roundTrips_iff_overlapsAgree spreadSegments).2 apart
  exact ⟨apart, trips, (roundTrips_iff_overlapsAgree spreadSegments).1.mp trips⟩

example : fileOffset? [⟨1, ⟨5⟩, 0, 0x1000, 0x500, 0x500⟩, ⟨1, ⟨6⟩, 0x800, 0x1500, 0x300, 0x300⟩]
    0x1500 = some 0x500 := by decide

/-- Each address has the same answer, or none, in whatever order the segments stand. -/
def AnswersInAnyOrder (segments : List Segment) : Prop :=
  ∀ permuted : List Segment, permuted.Perm segments →
    ∀ address, fileOffset? permuted address = fileOffset? segments address

theorem fileOffset?_cons_of_covers {segment : Segment} {address : UInt64}
    (covered : segment.covers address = true) (rest : List Segment) :
    fileOffset? (segment :: rest) address = some (segment.offsetAt address) := by
  simp only [fileOffset?, coveringSegment?, List.find?_cons, covered, Option.map_some]

theorem fileOffset?_eq_none_of_not_covers {segments : List Segment} {address : UInt64}
    (free : ∀ segment ∈ segments, ¬segment.covers address = true) :
    fileOffset? segments address = none := by
  rw [fileOffset?, coveringSegment?, List.find?_eq_none.mpr free, Option.map_none]

theorem roundTrips_of_answersInAnyOrder {segments : List Segment}
    (alike : AnswersInAnyOrder segments) : RoundTrips segments := by
  intro segment member distance near small
  obtain ⟨value, covered⟩ := segment.covers_ofNat_add near small
  have moved : (segment :: segments.erase segment).Perm segments :=
    (List.perm_cons_erase member).symm
  rw [← alike _ moved, fileOffset?_cons_of_covers covered, Option.map_some,
    Segment.toNat_offsetAt covered, value, Nat.add_sub_cancel_left]

theorem answersInAnyOrder_of_overlapsAgree {segments : List Segment}
    (agree : OverlapsAgree segments) : AnswersInAnyOrder segments := by
  intro permuted same address
  have also : OverlapsAgree permuted := by
    intro first member second among
    exact agree first (same.mem_iff.mp member) second (same.mem_iff.mp among)
  by_cases somewhere : ∃ segment ∈ segments, segment.covers address = true
  · obtain ⟨segment, member, covered⟩ := somewhere
    -- The two searches may end at different segments, but both say what this one says.
    apply Option.map_injective fun _ _ => UInt64.toNat_inj.mp
    calc
      _ = some ((segment.fileOffset.toNat + (address.toNat - segment.vaddr.toNat)) % 2 ^ 64) :=
        fileOffset?_of_overlapsAgree also (same.mem_iff.mpr member) covered
      _ = (fileOffset? segments address).map UInt64.toNat :=
        (fileOffset?_of_overlapsAgree agree member covered).symm
  · have free : ∀ segment ∈ segments, ¬segment.covers address = true := by
      intro segment member covered
      exact somewhere ⟨segment, member, covered⟩
    have free_permuted : ∀ segment ∈ permuted, ¬segment.covers address = true := by
      intro segment member
      exact free segment (same.mem_iff.mp member)
    rw [fileOffset?_eq_none_of_not_covers free, fileOffset?_eq_none_of_not_covers free_permuted]

/-- The order of the segments makes no difference to any address exactly when segments with an
address in common are shifted alike. -/
theorem answersInAnyOrder_iff_overlapsAgree (segments : List Segment) :
    AnswersInAnyOrder segments ↔ OverlapsAgree segments := by
  constructor
  · intro alike
    exact overlapsAgree_of_roundTrips (roundTrips_of_answersInAnyOrder alike)
  · exact answersInAnyOrder_of_overlapsAgree

end ElfTables

import ElfTables.Segment.Basic

namespace ElfTables

namespace Segment

def covers (segment : Segment) (address : UInt64) : Bool :=
  segment.vaddr ≤ address && address - segment.vaddr ≤ segment.fileSize

/-- The offset of an address that the segment covers, modulo `2 ^ 64`. -/
def offsetAt (segment : Segment) (address : UInt64) : UInt64 :=
  segment.fileOffset + (address - segment.vaddr)

theorem covers_iff (segment : Segment) (address : UInt64) :
    segment.covers address = true ↔
      segment.vaddr.toNat ≤ address.toNat ∧
        address.toNat ≤ segment.vaddr.toNat + segment.fileSize.toNat := by
  simp only [covers, Bool.and_eq_true, decide_eq_true_eq, UInt64.le_iff_toNat_le]
  constructor
  · rintro ⟨lower, upper⟩
    rw [UInt64.toNat_sub_of_le _ _ (UInt64.le_iff_toNat_le.2 lower)] at upper
    omega
  · rintro ⟨lower, upper⟩
    rw [UInt64.toNat_sub_of_le _ _ (UInt64.le_iff_toNat_le.2 lower)]
    omega

end Segment

def coveringSegment? (segments : List Segment) (address : UInt64) : Option Segment :=
  segments.find? fun segment => segment.covers address

def coveringIndex? (segments : List Segment) (address : UInt64) : Option Nat :=
  segments.findIdx? fun segment => segment.covers address

def fileOffset? (segments : List Segment) (address : UInt64) : Option UInt64 :=
  (coveringSegment? segments address).map fun segment => segment.offsetAt address

end ElfTables

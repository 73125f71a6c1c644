import ElfTables.Log
import ElfTables.QueryError
import ElfTables.Source

/-!
Walking a section table. A walk starts behind the null section, reads nothing ahead of what is
asked for, and ends for good at its first error.
-/
namespace ElfTables

structure Section where
  name : String
  fileOffset : UInt64
  vaddr : UInt64
  size : UInt64
  deriving DecidableEq, Repr

structure SectionWalk where
  source : Source
  names : Nat
  index : Nat
  count : Nat

namespace SectionWalk

def start (source : Source) : Except QueryError SectionWalk :=
  match source.nameTable with
  | .error cause => .error (.sectionScan .nameTable cause)
  | .ok names =>
    match source.sectionCount with
    | .error cause => .error (.sectionScan .sectionCount cause)
    | .ok count => .ok ⟨source, names, 1, count⟩

def sectionAt (source : Source) (names index : Nat) : Except QueryError Section :=
  match source.sectionHeader index with
  | .error cause => .error (.sectionScan (.header index) cause)
  | .ok header =>
    match source.stringAt names header.name.toNat with
    | .error cause => .error (.sectionScan (.name index) cause)
    | .ok name => .ok ⟨name, header.offset, header.addr, header.size⟩

def remaining (walk : SectionWalk) : Nat := walk.count - walk.index

/-- At least and at most so many items are still to come. The next read may fail, so none is
certain. -/
def bounds (walk : SectionWalk) : Nat × Option Nat := (0, some walk.remaining)

/-- The next item and the walk behind it; an error moves the walk to its end. -/
def next? (walk : SectionWalk) : Option (Except QueryError Section × SectionWalk) :=
  if walk.index < walk.count then
    match sectionAt walk.source walk.names walk.index with
    | .ok found => some (.ok found, { walk with index := walk.index + 1 })
    | .error error => some (.error error, { walk with index := walk.count })
  else
    none

theorem remaining_lt_of_next? {walk rest : SectionWalk} {item : Except QueryError Section}
    (step : walk.next? = some (item, rest)) : rest.remaining < walk.remaining := by
  unfold next? at step
  split at step
  next inside =>
    split at step <;> cases step <;> simp only [remaining] <;> omega
  next => cases step

def toList (walk : SectionWalk) : List (Except QueryError Section) :=
  match _ : walk.next? with
  | none => []
  | some (item, rest) => item :: rest.toList
termination_by walk.remaining
decreasing_by exact remaining_lt_of_next? ‹_›

def collect (walk : SectionWalk) (found : Array Section) :
    Except QueryError (Array Section) :=
  match _ : walk.next? with
  | none => .ok found
  | some (.ok entry, rest) => rest.collect (found.push entry)
  | some (.error error, _) => .error error
termination_by walk.remaining
decreasing_by exact remaining_lt_of_next? ‹_›

def find? (walk : SectionWalk) (name : String) : Except QueryError (Option Section) :=
  match _ : walk.next? with
  | none => .ok none
  | some (.ok entry, rest) => if entry.name = name then .ok (some entry) else rest.find? name
  | some (.error error, _) => .error error
termination_by walk.remaining
decreasing_by exact remaining_lt_of_next? ‹_›

end SectionWalk

end ElfTables

import ElfTables.Log
import ElfTables.QueryError
import ElfTables.Segment.Coverage
import ElfTables.Source

/-!
The segments read so far, in the order they were read. Loading only ever appends, and a load that
fails keeps what it read before the failure.
-/
namespace ElfTables

structure SegmentTable where
  segments : Array Segment
  deriving DecidableEq, Repr

namespace SegmentTable

def empty : SegmentTable := ⟨#[]⟩

def toList (table : SegmentTable) : List Segment := table.segments.toList

def size (table : SegmentTable) : Nat := table.segments.size

def isEmpty (table : SegmentTable) : Bool := table.segments.isEmpty

def push (table : SegmentTable) (segment : Segment) : SegmentTable :=
  ⟨table.segments.push segment⟩

/-- Appends `count` headers from `index` on, and gives the first that cannot be read with its
error. -/
def appendFrom (source : Source) (table : SegmentTable) (index : Nat) :
    Nat → SegmentTable × Option (Nat × ReadError)
  | 0 => (table, none)
  | count + 1 =>
    match source.segmentHeader index with
    | .ok header => appendFrom source (table.push (.ofHeader header)) (index + 1) count
    | .error cause => (table, some (index, cause))

def load (table : SegmentTable) (source : Source) :
    Logged (SegmentTable × Except QueryError Nat) :=
  match source.segmentCount with
  | .error cause => pure (table, .error (.segmentCount cause))
  | .ok count => do
    Logged.log .debug s!"Parsing {count} program headers"
    match appendFrom source table 0 count with
    | (loaded, none) =>
      Logged.log .info s!"Cached {count} program headers"
      pure (loaded, .ok count)
    | (loaded, some (index, cause)) =>
      Logged.log .warn
        s!"Program header parse stopped at {index}; keeping {loaded.size} entries"
      pure (loaded, .error (.segmentHeader index cause))

def loadEntry (table : SegmentTable) (source : Source) (index : Nat) :
    SegmentTable × Except QueryError Segment :=
  match source.segmentHeader index with
  | .ok header => (table.push (.ofHeader header), .ok (.ofHeader header))
  | .error cause => (table, .error (.segmentHeader index cause))

def coveringSegment? (table : SegmentTable) (address : UInt64) : Option Segment :=
  ElfTables.coveringSegment? table.toList address

def fileOffset? (table : SegmentTable) (address : UInt64) : Option UInt64 :=
  ElfTables.fileOffset? table.toList address

@[simp] theorem toList_empty : empty.toList = [] := rfl

@[simp] theorem toList_push (table : SegmentTable) (segment : Segment) :
    (table.push segment).toList = table.toList ++ [segment] := by
  simp [push, toList]

@[simp] theorem length_toList (table : SegmentTable) : table.toList.length = table.size := rfl

theorem ext_toList {left right : SegmentTable} (same : left.toList = right.toList) :
    left = right := by
  cases left
  cases right
  exact congrArg mk (Array.toList_inj.1 same)

end SegmentTable

end ElfTables

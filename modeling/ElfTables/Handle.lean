/-!
Readable handles. A handle may hand out its content in pieces, and a fault may stop positioning it
or reading from some position on.
-/
namespace ElfTables

/-- Reading fails once it starts at `position` or later; earlier reads stop there. -/
structure ReadFault where
  position : Nat
  reason : String
  deriving DecidableEq, Repr

structure Handle where
  content : Array UInt8
  position : Nat := 0
  /-- The longest piece one read gives. -/
  pieceLimit : Option Nat := none
  readFault : Option ReadFault := none
  seekFault : Option String := none
  deriving DecidableEq, Repr

namespace Handle

def rewind (handle : Handle) : Except String Handle :=
  match handle.seekFault with
  | some reason => .error reason
  | none => .ok { handle with position := 0 }

def pieceEnd (handle : Handle) : Nat :=
  let limit := match handle.pieceLimit with
    | some limit => min handle.content.size (handle.position + limit)
    | none => handle.content.size
  match handle.readFault with
  | some fault => min limit fault.position
  | none => limit

def read (handle : Handle) : Except String (Array UInt8 × Handle) :=
  let piece := handle.content.extract handle.position handle.pieceEnd
  let rest := { handle with position := max handle.position handle.pieceEnd }
  match handle.readFault with
  | some fault =>
    if fault.position ≤ handle.position then .error fault.reason else .ok (piece, rest)
  | none => .ok (piece, rest)

theorem read_eq_ok {handle rest : Handle} {piece : Array UInt8}
    (step : handle.read = .ok (piece, rest)) :
    piece = handle.content.extract handle.position handle.pieceEnd ∧
      rest = { handle with position := max handle.position handle.pieceEnd } := by
  unfold read at step
  split at step
  · split at step <;> cases step
    exact ⟨rfl, rfl⟩
  · cases step
    exact ⟨rfl, rfl⟩

theorem unread_lt_of_read {handle rest : Handle} {piece : Array UInt8}
    (step : handle.read = .ok (piece, rest)) (nonempty : ¬piece.isEmpty = true) :
    rest.content.size - rest.position < handle.content.size - handle.position := by
  obtain ⟨rfl, rfl⟩ := read_eq_ok step
  have unread : handle.position < min handle.pieceEnd handle.content.size := by
    simpa using nonempty
  dsimp only
  omega

def readOnto (handle : Handle) (before : Array UInt8) : Except String (Array UInt8) :=
  match _ : handle.read with
  | .error reason => .error reason
  | .ok (piece, rest) =>
    if _ : piece.isEmpty then .ok before else rest.readOnto (before ++ piece)
termination_by handle.content.size - handle.position
decreasing_by exact unread_lt_of_read ‹_› ‹_›

def readToEnd (handle : Handle) : Except String (Array UInt8) := handle.readOnto #[]

end Handle

end ElfTables

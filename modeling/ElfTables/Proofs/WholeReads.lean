import ElfTables.Handle
import Mathlib

/-!
Reading a handle to its end. However short the pieces are, the whole content arrives or the fault
is met (`Handle.readToEnd_eq`).
-/
namespace ElfTables.Handle

/-- Positioning and reading succeed, and no read before the end comes back empty. -/
structure Healthy (handle : Handle) : Prop where
  seekable : handle.seekFault = none
  readable : handle.readFault = none
  progresses : handle.pieceLimit ≠ some 0

/-- What reading everything comes to. The fault counts at the very end too, where the read that
would notice the end has to start. -/
def wholeContent (handle : Handle) : Except String (Array UInt8) :=
  match handle.readFault with
  | some fault =>
    if fault.position ≤ handle.content.size then .error fault.reason else .ok handle.content
  | none => .ok handle.content

theorem position_lt_pieceEnd {handle : Handle} (progresses : handle.pieceLimit ≠ some 0)
    (unread : handle.position < handle.content.size)
    (healthy : ∀ fault, handle.readFault = some fault → handle.position < fault.position) :
    handle.position < handle.pieceEnd := by
  have positive : ∀ limit, handle.pieceLimit = some limit → 0 < limit := by
    intro limit present
    apply Nat.pos_of_ne_zero
    intro zero
    exact progresses (by rw [present, zero])
  unfold pieceEnd
  cases limit : handle.pieceLimit with
  | none =>
      cases fault : handle.readFault with
      | none => exact unread
      | some found => exact lt_min unread (healthy found fault)
  | some pieces =>
      have more : handle.position < handle.position + pieces :=
        Nat.lt_add_of_pos_right (positive pieces limit)
      cases fault : handle.readFault with
      | none => exact lt_min unread more
      | some found => exact lt_min (lt_min unread more) (healthy found fault)

theorem pieceEnd_le (handle : Handle) : handle.pieceEnd ≤ handle.content.size := by
  unfold pieceEnd
  cases handle.pieceLimit <;> cases handle.readFault <;> simp only <;> omega

theorem read_of_reached {handle : Handle} {fault : ReadFault}
    (present : handle.readFault = some fault) (reached : fault.position ≤ handle.position) :
    handle.read = .error fault.reason := by
  simp only [read, present, reached, if_true]

theorem read_of_healthy {handle : Handle}
    (healthy : ∀ fault, handle.readFault = some fault → handle.position < fault.position) :
    handle.read = .ok (handle.content.extract handle.position handle.pieceEnd,
      { handle with position := max handle.position handle.pieceEnd }) := by
  cases present : handle.readFault with
  | none => simp only [read, present]
  | some fault =>
      have later : ¬fault.position ≤ handle.position := Nat.not_le.mpr (healthy fault present)
      simp only [read, present, later, if_false]

theorem readOnto_of_error {handle : Handle} {reason : String}
    (step : handle.read = .error reason) (before : Array UInt8) :
    handle.readOnto before = .error reason := by
  rw [readOnto]
  split
  next stopped =>
    rw [step] at stopped
    cases stopped
    rfl
  next stopped =>
    rw [step] at stopped
    cases stopped

theorem readOnto_of_ok {handle rest : Handle} {piece : Array UInt8}
    (step : handle.read = .ok (piece, rest)) (before : Array UInt8) :
    handle.readOnto before =
      if piece.isEmpty then .ok before else rest.readOnto (before ++ piece) := by
  rw [readOnto]
  split
  next stopped =>
    rw [step] at stopped
    cases stopped
  next stopped =>
    rw [step] at stopped
    cases stopped
    rfl

theorem readOnto_eq (handle : Handle) (progresses : handle.pieceLimit ≠ some 0)
    (inside : handle.position ≤ handle.content.size) :
    handle.readOnto (handle.content.extract 0 handle.position) = handle.wholeContent := by
  generalize measure : handle.content.size - handle.position = unread
  -- The induction is on the bytes not yet read; what was read before is the content in front of the
  -- position.
  induction unread using Nat.strong_induction_on generalizing handle with
  | _ unread ih =>
      by_cases failed : ∃ fault, handle.readFault = some fault ∧ fault.position ≤ handle.position
      · obtain ⟨fault, present, reached⟩ := failed
        have noticed : fault.position ≤ handle.content.size := Nat.le_trans reached inside
        rw [readOnto_of_error (read_of_reached present reached)]
        simp only [wholeContent, present, noticed, if_true]
      · have healthy : ∀ fault, handle.readFault = some fault →
            handle.position < fault.position := by
          intro fault present
          by_contra reached
          exact failed ⟨fault, present, Nat.le_of_not_lt reached⟩
        have bound := handle.pieceEnd_le
        rw [readOnto_of_ok (read_of_healthy healthy)]
        by_cases ended : handle.position = handle.content.size
        · have empty : (handle.content.extract handle.position handle.pieceEnd).isEmpty := by
            simp only [Array.isEmpty_iff_size_eq_zero, Array.size_extract]
            omega
          rw [if_pos empty, ended, Array.extract_size]
          cases present : handle.readFault with
          | none => simp only [wholeContent, present]
          | some fault =>
              have later : ¬fault.position ≤ handle.content.size := by
                rw [← ended]
                exact Nat.not_le.mpr (healthy fault present)
              simp only [wholeContent, present, later, if_false]
        · have more := position_lt_pieceEnd progresses (by omega) healthy
          have nonempty : ¬(handle.content.extract handle.position handle.pieceEnd).isEmpty := by
            simp only [Array.isEmpty_iff_size_eq_zero, Array.size_extract]
            omega
          rw [if_neg nonempty, Array.extract_append_extract, Nat.zero_min]
          apply ih (handle.content.size - max handle.position handle.pieceEnd) (by omega)
            { handle with position := max handle.position handle.pieceEnd } progresses
          · exact max_le inside bound
          · rfl

theorem readToEnd_eq (handle : Handle) (progresses : handle.pieceLimit ≠ some 0)
    (start : handle.position = 0) : handle.readToEnd = handle.wholeContent := by
  have whole := readOnto_eq handle progresses (by omega)
  rwa [start, Array.extract_zero] at whole

end ElfTables.Handle

import ElfTables.Proofs.Classification

/-!
Which handles open, and as what. Where a handle stands and how short its pieces are plays no part.
A fault keeps it from opening wherever it is met, at the very end included, and one behind the end
is not noticed (`Session.opened_by_content`).
-/
namespace ElfTables

/-- Stands at the start of the content, gives it in one piece and meets no fault. -/
def Handle.plain (content : Array UInt8) : Handle where
  content := content

namespace Handle

theorem healthy_plain (content : Array UInt8) : (plain content).Healthy :=
  ⟨rfl, rfl, by simp [plain]⟩

theorem wholeContent_plain (content : Array UInt8) :
    (plain content).wholeContent = .ok content :=
  rfl

variable {handle : Handle}

theorem wholeContent_of_met {fault : ReadFault} (present : handle.readFault = some fault)
    (met : fault.position ≤ handle.content.size) : handle.wholeContent = .error fault.reason := by
  simp only [wholeContent, present, met, if_true]

theorem wholeContent_of_unmet
    (unmet : ∀ fault, handle.readFault = some fault → handle.content.size < fault.position) :
    handle.wholeContent = .ok handle.content := by
  cases present : handle.readFault with
  | none => simp only [wholeContent, present]
  | some fault =>
      have behind : ¬fault.position ≤ handle.content.size := Nat.not_le.mpr (unmet fault present)
      simp only [wholeContent, present, behind, if_false]

end Handle

namespace Session

variable {handle : Handle}

theorem ofHandle_of_met (seekable : handle.seekFault = none)
    (progresses : handle.pieceLimit ≠ some 0) {fault : ReadFault}
    (present : handle.readFault = some fault) (met : fault.position ≤ handle.content.size) :
    ofHandle handle = pure (.error (.unreadable fault.reason)) := by
  rw [ofHandle_of_seekable seekable progresses, Handle.wholeContent_of_met present met]

theorem ofHandle_eq_plain (seekable : handle.seekFault = none)
    (progresses : handle.pieceLimit ≠ some 0)
    (unmet : ∀ fault, handle.readFault = some fault → handle.content.size < fault.position) :
    ofHandle handle = ofHandle (.plain handle.content) := by
  have plain := Handle.healthy_plain handle.content
  rw [ofHandle_of_seekable seekable progresses, Handle.wholeContent_of_unmet unmet,
    ofHandle_of_seekable plain.seekable plain.progresses, Handle.wholeContent_plain]

theorem exists_session_of_unmet (seekable : handle.seekFault = none)
    (progresses : handle.pieceLimit ≠ some 0)
    (unmet : ∀ fault, handle.readFault = some fault → handle.content.size < fault.position) :
    ∃ session, (ofHandle handle).value = .ok session ∧
      (ofHandle (.plain handle.content)).value = .ok session := by
  obtain ⟨session, opens⟩ := exists_session_ofBytes handle.content
  rw [ofHandle_eq_plain seekable progresses unmet,
    value_ofHandle_of_healthy (Handle.healthy_plain handle.content)]
  exact ⟨session, opens, opens⟩

theorem ofHandle_fails_iff (seekable : handle.seekFault = none)
    (progresses : handle.pieceLimit ≠ some 0) {fault : ReadFault}
    (present : handle.readFault = some fault) :
    (ofHandle handle).value = .error (.unreadable fault.reason) ↔
      fault.position ≤ handle.content.size := by
  constructor
  · intro failed
    by_contra behind
    have unmet : ∀ other, handle.readFault = some other →
        handle.content.size < other.position := by
      intro other also
      rw [present, Option.some.injEq] at also
      exact also ▸ Nat.lt_of_not_le behind
    obtain ⟨session, opens, _⟩ := exists_session_of_unmet seekable progresses unmet
    rw [failed] at opens
    cases opens
  · intro met
    rw [ofHandle_of_met seekable progresses present met, Logged.value_pure]

/-- A handle that cannot be positioned does not open. One that can fails to open just where a read
meets its fault, and the read that notices the end of the content is one of them. In every other
case it opens, as the very session that the content gives when it is read in one piece from the
start. -/
theorem opened_by_content (handle : Handle) (progresses : handle.pieceLimit ≠ some 0) :
    let opened := (ofHandle handle).value
    (∀ reason, handle.seekFault = some reason → opened = .error (.unreadable reason)) ∧
    (handle.seekFault = none →
      (∀ fault, handle.readFault = some fault →
        (opened = .error (.unreadable fault.reason) ↔ fault.position ≤ handle.content.size)) ∧
      ((∀ fault, handle.readFault = some fault → handle.content.size < fault.position) →
        ofHandle handle = ofHandle (.plain handle.content) ∧
          ∃ session, opened = .ok session ∧
            (ofHandle (.plain handle.content)).value = .ok session)) := by
  intro opened
  refine ⟨?unseekable, fun seekable => ⟨?fails, ?opens⟩⟩
  case unseekable =>
    intro reason unseekable
    simp only [opened, ofHandle_of_unseekable unseekable, Logged.value_pure]
  case fails =>
    intro fault present
    exact ofHandle_fails_iff seekable progresses present
  case opens =>
    intro unmet
    exact ⟨ofHandle_eq_plain seekable progresses unmet,
      exists_session_of_unmet seekable progresses unmet⟩

theorem opened_by_content_short :
    (∃ session,
      (ofHandle { shortHandle with readFault := some ⟨53, "read failed"⟩ }).value = .ok session ∧
        (ofHandle (.plain shortHandle.content)).value = .ok session) ∧
      (ofHandle { shortHandle with readFault := some ⟨52, "read failed"⟩ }).value =
        .error (.unreadable "read failed") ∧
      (ofHandle { shortHandle with seekFault := some "no seek" }).value =
        .error (.unreadable "no seek") := by
  have late := opened_by_content { shortHandle with readFault := some ⟨53, "read failed"⟩ }
    (by decide)
  have atEnd := opened_by_content { shortHandle with readFault := some ⟨52, "read failed"⟩ }
    (by decide)
  have stuck := opened_by_content { shortHandle with seekFault := some "no seek" } (by decide)
  refine ⟨?_, ?_, stuck.1 "no seek" rfl⟩
  · refine ((late.2 rfl).2 ?_).2
    rintro fault ⟨⟩
    decide
  · exact ((atEnd.2 rfl).1 _ rfl).mpr (by decide)

end Session

end ElfTables

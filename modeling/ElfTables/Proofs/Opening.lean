import ElfTables.Proofs.WholeReads
import ElfTables.Session

namespace ElfTables

namespace Image

theorem value_ofBytes (bytes : Array UInt8) :
    (ofBytes bytes).value =
      if hasHeader bytes then ⟨bytes, some (rawType bytes), (FileHeader.decode bytes).toOption⟩
      else ⟨bytes, none, none⟩ := by
  by_cases present : hasHeader bytes = true
  · rw [ofBytes, if_pos present, if_pos present]
    cases FileHeader.decode bytes with
    | ok header => rfl
    | error cause => rfl
  · rw [ofBytes, if_neg present, if_neg present]
    rfl

theorem bytes_ofBytes (bytes : Array UInt8) : (ofBytes bytes).value.bytes = bytes := by
  rw [value_ofBytes]
  cases hasHeader bytes <;> rfl

theorem parsedHeader_ofBytes_eq_ok_iff {bytes : Array UInt8} {header : FileHeader} :
    (ofBytes bytes).value.parsedHeader = .ok header ↔
      hasHeader bytes = true ∧ FileHeader.decode bytes = .ok header := by
  rw [parsedHeader, value_ofBytes]
  by_cases present : hasHeader bytes = true
  · simp only [present, if_true, true_and]
    cases FileHeader.decode bytes <;> simp [Except.toOption]
  · simp [present]

theorem decode_of_parsedHeader {bytes : Array UInt8} {header : FileHeader}
    (parsed : (ofBytes bytes).value.parsedHeader = .ok header) :
    FileHeader.decode bytes = .ok header :=
  (parsedHeader_ofBytes_eq_ok_iff.mp parsed).2

theorem kind_eq_elf_iff (image : Image) :
    image.kind = .elf ↔ ∃ type, image.type = some type ∧ objectTypes.contains type = true := by
  unfold kind
  cases image.type with
  | none => simp only [reduceCtorEq, false_and, exists_false]
  | some type =>
      by_cases known : objectTypes.contains type = true
      · simp only [known, if_true, Option.some.injEq, exists_eq_left']
      · simp only [known, if_false, Option.some.injEq, exists_eq_left', reduceCtorEq]

end Image

namespace Session

theorem value_classify (source : Source) :
    (classify source).value = source.width.toOption.getD .unknown := by
  unfold classify
  cases source.width <;> rfl

theorem value_ofSource_of_elf {source : Source} (ready : source.setup = .ok ())
    (kind : source.kind = .elf) :
    (ofSource source).value =
      .ok (.elf source (source.width.toOption.getD .unknown) source.ident .empty) := by
  simp only [ofSource, ready, kind]
  cases source.ident <;> simp [value_classify]

theorem value_ofSource_of_other {source : Source} (ready : source.setup = .ok ())
    (kind : source.kind = .other) : (ofSource source).value = .ok .inert := by
  simp only [ofSource, ready, kind, Logged.value_bind, Logged.value_pure]

theorem ready_of_value_ofSource {source : Source} {opened : Session}
    (opening : (ofSource source).value = .ok opened) : source.setup = .ok () := by
  cases ready : source.setup with
  | error cause =>
      rw [ofSource, ready] at opening
      cases opening
  | ok done => rfl

theorem elf_of_value_ofSource {source : Source} {opened : Session}
    (opening : (ofSource source).value = .ok opened) (elf : opened.isElf = true) :
    opened = .elf source opened.width opened.ident .empty := by
  have ready := ready_of_value_ofSource opening
  cases kind : source.kind with
  | elf =>
      rw [value_ofSource_of_elf ready kind] at opening
      cases opening
      rfl
  | other =>
      rw [value_ofSource_of_other ready kind] at opening
      cases opening
      cases elf

theorem inert_of_value_ofSource {source : Source} {opened : Session}
    (opening : (ofSource source).value = .ok opened) (other : opened.isElf = false) :
    opened = .inert := by
  have ready := ready_of_value_ofSource opening
  cases kind : source.kind with
  | elf =>
      rw [value_ofSource_of_elf ready kind] at opening
      cases opening
      cases other
  | other =>
      rw [value_ofSource_of_other ready kind] at opening
      cases opening
      rfl

def ofBytes (bytes : Array UInt8) : Except QueryError Session :=
  (ofSource (Image.ofBytes bytes).value.source).value

theorem exists_bytes_of_ofHandle {handle : Handle} {session : Session}
    (opens : (ofHandle handle).value = .ok session) : ∃ bytes, ofBytes bytes = .ok session := by
  rw [ofHandle] at opens
  split at opens
  next => cases opens
  next start _ =>
    split at opens
    next => cases opens
    next bytes _ => exact ⟨bytes, opens⟩

theorem ofHandle_of_unseekable {handle : Handle} {reason : String}
    (unseekable : handle.seekFault = some reason) :
    ofHandle handle = pure (.error (.unreadable reason)) := by
  simp only [ofHandle, Handle.rewind, unseekable]

theorem ofHandle_of_seekable {handle : Handle} (seekable : handle.seekFault = none)
    (progresses : handle.pieceLimit ≠ some 0) :
    ofHandle handle =
      match handle.wholeContent with
      | .error reason => pure (.error (.unreadable reason))
      | .ok bytes => (do
        Logged.log .debug s!"Read {bytes.size} bytes for ELF parsing"
        let image ← Image.ofBytes bytes
        ofSource image.source) := by
  have rewound : handle.rewind = .ok { handle with position := 0 } := by
    simp only [Handle.rewind, seekable]
  have whole : ({ handle with position := 0 } : Handle).readToEnd = handle.wholeContent :=
    Handle.readToEnd_eq { handle with position := 0 } progresses rfl
  cases read : handle.wholeContent with
  | error reason => simp only [ofHandle, rewound, whole, read]
  | ok bytes => simp only [ofHandle, rewound, whole, read]

theorem value_ofHandle_of_healthy {handle : Handle} (healthy : handle.Healthy) :
    (ofHandle handle).value = ofBytes handle.content := by
  have whole : handle.wholeContent = .ok handle.content := by
    simp only [Handle.wholeContent, healthy.readable]
  simp only [ofHandle_of_seekable healthy.seekable healthy.progresses, whole, Logged.value_bind,
    ofBytes]

theorem ofBytes_of_elf {bytes : Array UInt8}
    (kind : (Image.ofBytes bytes).value.kind = .elf) :
    ofBytes bytes = .ok (.elf (Image.ofBytes bytes).value.source
      ((Image.ofBytes bytes).value.width.toOption.getD .unknown)
      (Image.ofBytes bytes).value.ident .empty) :=
  value_ofSource_of_elf rfl kind

theorem ofBytes_of_other {bytes : Array UInt8}
    (kind : (Image.ofBytes bytes).value.kind = .other) : ofBytes bytes = .ok .inert :=
  value_ofSource_of_other rfl kind

theorem exists_session_ofBytes (bytes : Array UInt8) : ∃ session, ofBytes bytes = .ok session := by
  cases kind : (Image.ofBytes bytes).value.kind with
  | elf => exact ⟨_, ofBytes_of_elf kind⟩
  | other => exact ⟨_, ofBytes_of_other kind⟩

end Session

end ElfTables

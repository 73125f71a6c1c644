import ElfTables.Handle
import ElfTables.Image
import ElfTables.Section.Walk
import ElfTables.Segment.Table

/-!
Sessions: one object, opened once and asked many questions. A session whose class or
identification bytes cannot be read goes on without them; a session over anything but an ELF
object is inert, and a closed one keeps only the width.
-/
namespace ElfTables

inductive Session where
  | elf (source : Source) (width : AddressWidth) (ident : Option (List UInt8))
      (table : SegmentTable)
  | inert
  | closed (width : AddressWidth)

namespace Session

def classify (source : Source) : Logged AddressWidth :=
  match source.width with
  | .ok width => pure width
  | .error cause => do
    Logged.log .warn s!"{(QueryError.unclassified cause).message}: {cause.message}"
    pure .unknown

def ofSource (source : Source) : Logged (Except QueryError Session) :=
  match source.setup with
  | .error cause => pure (.error (.setup cause))
  | .ok () =>
    match source.kind with
    | .other => do
      Logged.log .info "No ELF header present"
      pure (.ok .inert)
    | .elf => do
      let width ← classify source
      if source.ident.isNone then
        Logged.log .warn "ELF identification bytes unavailable"
      Logged.log .info s!"Opened {width.name}-bit ELF object"
      pure (.ok (.elf source width source.ident .empty))

/-- Reads the whole content from its start, wherever the handle stands. -/
def ofHandle (handle : Handle) : Logged (Except QueryError Session) :=
  match handle.rewind with
  | .error reason => pure (.error (.unreadable reason))
  | .ok start =>
    match start.readToEnd with
    | .error reason => pure (.error (.unreadable reason))
    | .ok bytes => do
      Logged.log .debug s!"Read {bytes.size} bytes for ELF parsing"
      let image ← Image.ofBytes bytes
      ofSource image.source

def isElf : Session → Bool
  | .elf .. => true
  | .inert | .closed _ => false

def isClosed : Session → Bool
  | .closed _ => true
  | .elf .. | .inert => false

def width : Session → AddressWidth
  | .elf _ width _ _ | .closed width => width
  | .inert => .unknown

def ident : Session → Option (List UInt8)
  | .elf _ _ ident _ => ident
  | .inert | .closed _ => none

def table : Session → SegmentTable
  | .elf _ _ _ table => table
  | .inert | .closed _ => .empty

def source : Session → Except QueryError Source
  | .elf source _ _ _ => .ok source
  | .inert => .error .notElf
  | .closed _ => .error .closed

/-- Reads the segment table afresh. A failed build keeps what it read before the failure. -/
def build (session : Session) : Logged (Session × Except QueryError Unit) :=
  match session with
  | .inert => pure (session, .error .notElf)
  | .closed _ => pure (session, .error .closed)
  | .elf source width ident table => do
    if !table.isEmpty then
      Logged.log .debug s!"Discarding {table.size} cached program headers"
    let (loaded, outcome) ← SegmentTable.empty.load source
    pure (.elf source width ident loaded, outcome.map fun _ => ())

def close (session : Session) : Logged Session :=
  match session with
  | .closed _ => pure session
  | .inert | .elf .. => do
    Logged.log .debug "ELF session closed"
    pure (.closed session.width)

def sections (session : Session) : Except QueryError SectionWalk := do
  let source ← session.source
  SectionWalk.start source

def findSection (session : Session) (name : String) :
    Logged (Except QueryError (Option Section)) :=
  match session.sections.bind fun walk => walk.find? name with
  | .ok none => do
    Logged.log .debug s!"No section named {name}"
    pure (.ok none)
  | outcome => pure outcome

def findOffset (session : Session) (name : String) :
    Logged (Except QueryError (Option UInt64)) := do
  let outcome ← session.findSection name
  pure (outcome.map fun found => found.map Section.fileOffset)

def findSize (session : Session) (name : String) :
    Logged (Except QueryError (Option UInt64)) := do
  let outcome ← session.findSection name
  pure (outcome.map fun found => found.map Section.size)

end Session

end ElfTables

import ElfTables.ReadError

namespace ElfTables

inductive ScanStep where
  | nameTable
  | sectionCount
  | header (index : Nat)
  | name (index : Nat)
  deriving DecidableEq, Repr

def ScanStep.message : ScanStep → String
  | .nameTable => "resolving the section name table"
  | .sectionCount => "reading the section count"
  | .header index => s!"reading section {index}"
  | .name index => s!"resolving the name of section {index}"

inductive QueryError where
  | setup (cause : ReadError)
  /-- The handle could not be positioned or read; `reason` is the operating system's. -/
  | unreadable (reason : String)
  | unclassified (cause : ReadError)
  | segmentCount (cause : ReadError)
  | segmentHeader (index : Nat) (cause : ReadError)
  | sectionScan (step : ScanStep) (cause : ReadError)
  | notElf
  | closed
  deriving DecidableEq, Repr

namespace QueryError

def message : QueryError → String
  | .setup _ => "ELF parser unavailable"
  | .unreadable _ => "couldn't open file handle for ELF parsing"
  | .unclassified _ => "couldn't read ELF address class"
  | .segmentCount _ => "couldn't read program header count"
  | .segmentHeader index _ => s!"couldn't read program header {index}"
  | .sectionScan step _ => s!"section scan failed while {step.message}"
  | .notElf => "file is not an ELF relocatable, executable or shared object"
  | .closed => "ELF session is closed"

def causes : QueryError → List String
  | .setup cause | .unclassified cause | .segmentCount cause | .segmentHeader _ cause
  | .sectionScan _ cause => cause.chain
  | .unreadable reason => [reason]
  | .notElf | .closed => []

def chain (error : QueryError) : List String := error.message :: error.causes

end QueryError

end ElfTables

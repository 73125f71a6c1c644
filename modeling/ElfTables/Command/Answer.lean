import ElfTables.Command.Arguments
import ElfTables.Command.Listing
import ElfTables.Session

namespace ElfTables

inductive Answer where
  | found (stdout : String)
  /-- Nothing matched; `notice` says so. -/
  | missing (stdout notice : String)
  deriving DecidableEq, Repr

structure Failure where
  context : Option String
  error : QueryError
  deriving DecidableEq, Repr

namespace Failure

def chain (failure : Failure) : List String := failure.context.toList ++ failure.error.chain

def message (failure : Failure) : String := ": ".intercalate failure.chain

end Failure

namespace Answer

def line (text : List Char) : String := String.ofList (text ++ ['\n'])

def jsonLine (record : JsonRecord) : String := line (Json.record 0 record)

def optional (value : Option UInt64) : JsonScalar :=
  match value with
  | some value => .number value.toNat
  | none => .null

def info (session : Session) (json : Bool) : Answer :=
  let ident? := session.ident.map Hex.dump
  if json then
    .found (jsonLine [("elf", .bool session.isElf), ("bits", .string session.width.name),
      ("ident", match ident? with
        | some ident => .string ident
        | none => .null)])
  else
    let elf := if session.isElf then "true" else "false"
    let ident := ident?.getD "-"
    .found (s!"ELF:   {elf}\nBits:  {session.width.name}\nIdent: {ident}\n")

def built (session : Session) : Except Failure Session :=
  match session.build.value with
  | (loaded, .ok ()) => .ok loaded
  | (_, .error error) => .error ⟨some "couldn't parse the program header table", error⟩

def segments (session : Session) (json : Bool) : Except Failure Answer := do
  let loaded ← built session
  if loaded.table.isEmpty && !json then
    pure (.found "No program headers found.\n")
  else
    pure (.found (line ((Listing.ofSegments loaded.width loaded.table.toList).render json)))

def sections (session : Session) (json : Bool) : Except Failure Answer :=
  match session.sections with
  | .error error => .error ⟨none, error⟩
  | .ok walk =>
    match walk.collect #[] with
    | .error error => .error ⟨some "couldn't scan the section header table", error⟩
    | .ok entries =>
      let text := line ((Listing.ofSections session.width entries.toList).render json)
      if json then
        .ok (.found text)
      else if entries.isEmpty then
        .ok (.found "No sections found (possibly stripped binary).\n")
      else
        .ok (.found (s!"Found {entries.size} section header records:\n" ++ text))

def offsetRecord (address : UInt64) (segment? : Option Segment) : JsonRecord :=
  [("vaddr", .number address.toNat),
    ("offset", optional (segment?.map fun segment => segment.offsetAt address)),
    ("segment", match segment? with
      | some segment => .string segment.kind.name
      | none => .null)]

def offset (session : Session) (address : UInt64) (json : Bool) : Except Failure Answer := do
  let loaded ← built session
  let segment? := loaded.table.coveringSegment? address
  let record := jsonLine (offsetRecord address segment?)
  match segment? with
  | some segment =>
    let result := formatOffset (segment.offsetAt address)
    pure (.found (if json then record
      else s!"  offset_of({formatOffset address}) = {result} ({segment.kind.name})\n"))
  | none => pure (.missing (if json then record else "") "could not find offset from vaddr")

def sectionRecord (name : String) (section? : Option Section) : JsonRecord :=
  [("name", .string name), ("offset", optional (section?.map Section.fileOffset)),
    ("size", optional (section?.map Section.size))]

def find (session : Session) (name : String) (json : Bool) : Except Failure Answer :=
  match (session.findSection name).value with
  | .error error => .error ⟨none, error⟩
  | .ok section? =>
    let record := jsonLine (sectionRecord name section?)
    match section? with
    | some entry =>
      let offset := formatOffset entry.fileOffset
      let size := Hex.literal 0 entry.size.toNat
      .ok (.found (if json then record else s!"{name}: offset {offset}, size {size}\n"))
    | none => .ok (.missing (if json then record else "") s!"no section named {name}")

def ofQuery (session : Session) (json : Bool) : Query → Except Failure Answer
  | .info => .ok (info session json)
  | .segments => segments session json
  | .sections => sections session json
  | .offset address => offset session address json
  | .find name => find session name json

end Answer

end ElfTables

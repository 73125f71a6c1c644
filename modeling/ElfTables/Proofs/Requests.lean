import ElfTables.Session

namespace ElfTables.Session

inductive Request where
  | build
  | close
  | source
  | segments
  | fileOffset (address : UInt64)
  | sections
  | findSection (name : String)
  | findOffset (name : String)
  | findSize (name : String)
  deriving DecidableEq, Repr

inductive Reply where
  | built (outcome : Except QueryError (List Segment))
  | closed
  /-- Whether the source is to be had. -/
  | source (outcome : Except QueryError Unit)
  | segments (loaded : List Segment)
  | located (offset : Option UInt64) (segment : Option Segment)
  | sections (outcome : Except QueryError (List (Except QueryError Section)))
  | found (outcome : Except QueryError (Option Section))
  | number (outcome : Except QueryError (Option UInt64))

namespace Request

def needsSource : Request → Bool
  | .build | .source | .sections | .findSection _ | .findOffset _ | .findSize _ => true
  | .close | .segments | .fileOffset _ => false

end Request

namespace Reply

def error? : Reply → Option QueryError
  | .built (.error error) | .source (.error error) | .sections (.error error)
  | .found (.error error) | .number (.error error) => some error
  | .built (.ok _) | .source (.ok _) | .sections (.ok _) | .found (.ok _) | .number (.ok _)
  | .closed | .segments _ | .located _ _ => none

end Reply

def perform (session : Session) : Request → Session × Reply
  | .build =>
    (session.build.value.1,
      .built (session.build.value.2.map fun _ => session.build.value.1.table.toList))
  | .close => (session.close.value, .closed)
  | .source => (session, .source (session.source.map fun _ => ()))
  | .segments => (session, .segments session.table.toList)
  | .fileOffset address =>
    (session, .located (session.table.fileOffset? address)
      (session.table.coveringSegment? address))
  | .sections => (session, .sections (session.sections.map SectionWalk.toList))
  | .findSection name => (session, .found (session.findSection name).value)
  | .findOffset name => (session, .number (session.findOffset name).value)
  | .findSize name => (session, .number (session.findSize name).value)

def run (session : Session) : List Request → Session × List Reply
  | [] => (session, [])
  | request :: rest =>
    (((session.perform request).1.run rest).1,
      (session.perform request).2 :: ((session.perform request).1.run rest).2)

theorem perform_fst_of_query (session : Session) {request : Request} (query : request ≠ .build)
    (open_after : request ≠ .close) : (session.perform request).1 = session := by
  cases request with
  | build => exact absurd rfl query
  | close => exact absurd rfl open_after
  | _ => rfl

end ElfTables.Session

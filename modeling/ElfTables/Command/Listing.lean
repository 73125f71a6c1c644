import ElfTables.Section.Walk
import ElfTables.Segment.Table
import ElfTables.Text.Grid
import ElfTables.Text.Json

namespace ElfTables

structure Column where
  title : String
  key : String
  deriving DecidableEq, Repr

structure Listing where
  columns : List Column
  rows : List (List String)
  deriving DecidableEq, Repr

namespace Listing

def typeCell (segment : Segment) : String :=
  if segment.isKnown then segment.kind.name
  else s!"{segment.kind.name} ({Hex.literal 0 segment.code.toNat})"

def segmentRow (width : AddressWidth) (segment : Segment) : List String :=
  [formatOffset segment.fileOffset, width.format segment.vaddr, segment.flags.text,
    typeCell segment, segment.kind.description]

def segmentColumns : List Column :=
  [⟨"Offset", "offset"⟩, ⟨"Virtual", "vaddr"⟩, ⟨"Flags", "flags"⟩, ⟨"Type", "stype"⟩,
    ⟨"Description", "description"⟩]

def ofSegments (width : AddressWidth) (segments : List Segment) : Listing :=
  ⟨segmentColumns, segments.map (segmentRow width)⟩

def sectionRow (width : AddressWidth) (entry : Section) : List String :=
  [entry.name, formatOffset entry.fileOffset, width.format entry.vaddr,
    Hex.literal 0 entry.size.toNat]

def sectionColumns : List Column :=
  [⟨"Name", "name"⟩, ⟨"Offset", "offset"⟩, ⟨"Virtual", "vaddr"⟩, ⟨"Size", "size"⟩]

def ofSections (width : AddressWidth) (entries : List Section) : Listing :=
  ⟨sectionColumns, entries.map (sectionRow width)⟩

def toGrid (listing : Listing) : List Char :=
  Grid.render (listing.columns.map fun column => column.title.toList)
    (listing.rows.map fun row => row.map String.toList)

def toRecords (listing : Listing) : List JsonRecord :=
  listing.rows.map fun row => List.zipWith (fun column cell => (column.key, .string cell))
    listing.columns row

def render (listing : Listing) (json : Bool) : List Char :=
  if json then Json.rows listing.toRecords else listing.toGrid

end Listing

end ElfTables

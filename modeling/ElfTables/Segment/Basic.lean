import ElfTables.Segment.Flags
import ElfTables.Segment.Header
import ElfTables.Segment.Kind

namespace ElfTables

structure Segment where
  code : UInt32
  flags : SegmentFlags
  fileOffset : UInt64
  vaddr : UInt64
  fileSize : UInt64
  memorySize : UInt64
  deriving DecidableEq, Repr

namespace Segment

def ofHeader (header : SegmentHeader) : Segment where
  code := header.type
  flags := ⟨header.flags⟩
  fileOffset := header.offset
  vaddr := header.vaddr
  fileSize := header.filesz
  memorySize := header.memsz

def kind (segment : Segment) : SegmentKind := SegmentKind.ofCode segment.code

def isKnown (segment : Segment) : Bool := segment.kind != SegmentKind.unknown

end Segment

end ElfTables

import ElfTables.Address
import ElfTables.ReadError
import ElfTables.Section.Header
import ElfTables.Segment.Header

namespace ElfTables

inductive ObjectKind where
  /-- A relocatable, executable or shared object. -/
  | elf
  /-- Anything else, core files included. -/
  | other
  deriving DecidableEq, Repr

structure Source where
  setup : Except ReadError Unit
  kind : ObjectKind
  width : Except ReadError AddressWidth
  ident : Option (List UInt8)
  segmentCount : Except ReadError Nat
  segmentHeader (index : Nat) : Except ReadError SegmentHeader
  /-- Number of section headers, the null section at index 0 included. -/
  sectionCount : Except ReadError Nat
  sectionHeader (index : Nat) : Except ReadError SectionHeader
  /-- Index of the section that holds the section names. -/
  nameTable : Except ReadError Nat
  stringAt (table offset : Nat) : Except ReadError String

end ElfTables

import ElfTables.Bytes.Layout
import ElfTables.Text.Hex

namespace ElfTables

inductive Malformation where
  | noHeader
  | noSectionTable
  | unsupportedVersion (version : UInt8)
  | unknownClass (value : UInt8)
  | undecodableClass (value : UInt8)
  | undecodableByteOrder (value : UInt8)
  | outsideAddressSpace (index : Nat)
  | segmentOutOfRange (index count : Nat)
  | sectionOutOfRange (index count : Nat)
  | notStringTable (table : Nat)
  | noString (offset table : Nat)
  /-- A reason given by a source that is not a file image. -/
  | reported (text : String)
  deriving DecidableEq, Repr

def Malformation.message : Malformation → String
  | .noHeader => "no ELF header"
  | .noSectionTable => "file has no section header table"
  | .unsupportedVersion version => s!"unsupported ELF version {version.toNat}"
  | .unknownClass value => s!"invalid ELF class {value.toNat}"
  | .undecodableClass value => s!"invalid ELF class {Hex.bare value.toNat}"
  | .undecodableByteOrder value => s!"invalid ELF endianness DATA type {Hex.bare value.toNat}"
  | .outsideAddressSpace index => s!"table entry {index} lies outside the address space"
  | .segmentOutOfRange index count => s!"program header {index} out of range ({count} entries)"
  | .sectionOutOfRange index count => s!"section {index} out of range ({count} entries)"
  | .notStringTable table => s!"section {table} is not a string table"
  | .noString offset table => s!"no string at offset {offset} in section {table}"
  | .reported text => text

inductive ReadError where
  | malformed (cause : Malformation)
  | badMagic (value : UInt64)
  | badOffset (offset : Nat)
  | truncated (shortfall : Shortfall)
  deriving DecidableEq, Repr

namespace ReadError

def message : ReadError → String
  | .malformed cause => s!"Malformed entity: {cause.message}"
  | .badMagic value => s!"Invalid magic number: {Hex.literal 0 value.toNat}"
  | .badOffset offset => s!"bad offset {offset}"
  | .truncated shortfall => s!"type is too big ({shortfall.width}) for {shortfall.remaining}"

/-- The error and what lies behind it, outermost first. Reading outside the bytes wraps an error
of the same text. -/
def chain (error : ReadError) : List String :=
  match error with
  | .malformed _ | .badMagic _ => [error.message]
  | .badOffset _ | .truncated _ => [error.message, error.message]

end ReadError

end ElfTables

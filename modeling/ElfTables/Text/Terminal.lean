import ElfTables.Text.Utf8

/-!
What is left of a text when everything that controls a terminal is taken out: escape sequences,
and control characters other than blanks and line ends. A character outside ASCII that stands in a
sequence goes with it. A blank or a line end that is kept ends the removal, and so does the byte
that terminates a string, also where it is a part of a character.
-/
namespace ElfTables.Terminal

inductive Place where
  | text
  | escape
  | escapeIntermediate
  | control
  | deviceEntry
  | deviceParameters
  | deviceIntermediate
  /-- Up to a terminator, as in the text for a device. -/
  | string
  | command
  deriving DecidableEq, Repr

def isBetween (byte first last : UInt8) : Bool := first ≤ byte && byte ≤ last

def isSpacing (byte : UInt8) : Bool := byte = 0x09 || byte = 0x0a || byte = 0x0c || byte = 0x0d

def isContinuation (byte : UInt8) : Bool := isBetween byte 0x80 0xbf

namespace Place

def afterEscape (byte : UInt8) : Place :=
  if byte = '['.toUInt8 then .control
  else if byte = ']'.toUInt8 then .command
  else if byte = 'P'.toUInt8 then .deviceEntry
  else if byte = 'X'.toUInt8 || byte = '^'.toUInt8 || byte = '_'.toUInt8 then .string
  else if isBetween byte 0x20 0x2f then .escapeIntermediate
  else if isBetween byte 0x30 0x7e then .text
  else .escape

def inDevice (place : Place) (byte : UInt8) : Place :=
  if isBetween byte 0x20 0x2f then .deviceIntermediate
  else if isBetween byte 0x40 0x7e then .string
  else if isBetween byte 0x30 0x3b then
    if place = .deviceIntermediate then .string else .deviceParameters
  else if isBetween byte 0x3c 0x3f then
    if place = .deviceEntry then .deviceParameters else .string
  else place

/-- An escape starts a sequence anywhere, and a cancel or substitute ends it. -/
def next (place : Place) (byte : UInt8) : Place :=
  if byte = 0x1b then .escape
  else if byte = 0x18 || byte = 0x1a then .text
  else
    match place with
    | .text => .text
    | .escape => afterEscape byte
    | .escapeIntermediate => if isBetween byte 0x30 0x7e then .text else place
    | .control => if isBetween byte 0x40 0x7e then .text else place
    | .deviceEntry | .deviceParameters | .deviceIntermediate => place.inDevice byte
    | .string => if byte = 0x9c then .text else place
    | .command => if byte = 0x07 then .text else place

def shows (place : Place) (byte : UInt8) : Bool :=
  match place with
  | .text => isBetween byte 0x20 0x7e || isBetween byte 0xc2 0xf4 || isSpacing byte
  | .escape | .escapeIntermediate | .control => isSpacing byte
  | .deviceEntry | .deviceParameters | .deviceIntermediate | .string | .command => false

end Place

/-- While `showing`, bytes count as text wherever they stand, and a character shows as a whole;
a byte that does not show is looked at again at its place. -/
def strip (showing : Bool) (place : Place) : List UInt8 → List UInt8
  | [] => []
  | byte :: rest =>
    if showing && (Place.text.shows byte || isContinuation byte) then
      byte :: strip true (if isBetween byte 0xc2 0xf4 then .text else place) rest
    else if place.shows byte then byte :: strip true (place.next byte) rest
    else strip false (place.next byte) rest

def plain (text : String) : String :=
  Utf8.decode (strip false .text text.toUTF8.toList)

end ElfTables.Terminal

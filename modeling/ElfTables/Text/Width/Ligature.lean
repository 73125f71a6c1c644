import ElfTables.Text.Width.Basic

/-!
Ligatures that are narrower than their letters: Arabic lam and alef, Hebrew alef and lamed,
Buginese vowel and ya, Tifinagh double consonants, Lisu tone letters, Old Turkic ec and i, and
Khmer letters below others. Parts are added from the last to the first.
-/
namespace ElfTables.Width

def alefs : CodePoints where
  ranges :=
    #[(0x622, 0x623), (0x625, 0x625), (0x627, 0x627), (0x671, 0x673), (0x675, 0x675),
      (0x773, 0x774), (0x870, 0x882)]

def lams : CodePoints where
  ranges := #[(0x644, 0x644), (0x6b5, 0x6b8), (0x76a, 0x76a), (0x8a6, 0x8a6), (0x8c7, 0x8c7)]

def consonants : CodePoints where
  ranges := #[(0x2d31, 0x2d65), (0x2d6f, 0x2d6f)]

def firstToneLetters : CodePoints where
  ranges := #[(0xa4f8, 0xa4fb)]

def lastToneLetters : CodePoints where
  ranges := #[(0xa4fc, 0xa4fd)]

/-- Letters of Khmer that go below the one in front when a coeng stands between. -/
def subscriptLetters : CodePoints where
  ranges :=
    #[(0x1780, 0x1782), (0x1784, 0x1787), (0x1789, 0x178c), (0x178e, 0x1793), (0x1795, 0x1798),
      (0x179b, 0x179d), (0x17a0, 0x17a0), (0x17a2, 0x17a2), (0x17a7, 0x17a7), (0x17ab, 0x17ac),
      (0x17af, 0x17af)]

def isIgnorableMark (c : Char) : Bool :=
  Format.ignorable.contains c && Mark.nonspacing.contains c

def isTransparent (c : Char) : Bool :=
  columns c = 0 && (Mark.nonspacing.contains c || Format.transparent.contains c)

namespace Ligature

def ofChar? (c : Char) : Option Ligature :=
  if alefs.contains c then some .alef
  else if c = '\u05DC' then some (.lamed false)
  else if c = '\u1A10' then some (.ya false)
  else if consonants.contains c then some (.consonant false)
  else if lastToneLetters.contains c then some .toneLetter
  else if c.toNat = 0x10c03 then some (.orkhonI false)
  else if subscriptLetters.contains c then some .subscriptLetter
  else none

def join : Ligature → Ligature
  | .lamed _ => .lamed true
  | .ya _ => .ya true
  | .consonant _ => .consonant true
  | .orkhonI _ => .orkhonI true
  | part => part

def addLetter? (part : Ligature) (c : Char) : Option Step :=
  match part with
  | .alef => if lams.contains c then some (0, .empty) else none
  | .lamed true => if c = '\u05D0' then some (0, .empty) else none
  | .ya true => if c = '\u1A17' then some (0, .ofBehind (.ligature .vowelYa)) else none
  | .vowelYa => if c = '\u1A15' then some (0, .empty) else none
  | .consonant joined =>
    if c = '\u2D7F' then some (1, .ofBehind (.ligature .joinedConsonant))
    else if joined && consonants.contains c then some (0, .empty)
    else none
  | .joinedConsonant => if consonants.contains c then some (-1, .empty) else none
  | .toneLetter => if firstToneLetters.contains c then some (0, .empty) else none
  | .orkhonI true => if c.toNat = 0x10c32 then some (0, .empty) else none
  | .subscriptLetter => if c = '\u17D2' then some (-1, .empty) else none
  | .lamed false | .ya false | .orkhonI false => none

def add? (part : Ligature) (c : Char) : Option Step :=
  if part = .alef then
    if isTransparent c then some (0, .ofBehind (.ligature part)) else part.addLetter? c
  else if c = joiner then some (0, .ofBehind (.ligature part.join))
  else if isIgnorableMark c then some (0, .ofBehind (.ligature part))
  else part.addLetter? c

end Ligature

end ElfTables.Width

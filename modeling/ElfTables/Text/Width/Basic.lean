import ElfTables.Text.Emoji
import ElfTables.Text.Format
import ElfTables.Text.Mark
import ElfTables.Text.Wide

namespace ElfTables.Width

def syllableRests : CodePoints where
  ranges := #[(0x1160, 0x11ff), (0xd7b0, 0xd7c6), (0xd7cb, 0xd7fb)]

def overlaid : CodePoints where
  ranges := #[(0x605, 0x605), (0x70f, 0x70f), (0x890, 0x891), (0x8e2, 0x8e2), (0xa8fa, 0xa8fa)]

def prefixed : CodePoints where
  ranges :=
    #[(0xd4e, 0xd4e), (0x111c2, 0x111c3), (0x113d1, 0x113d1), (0x1193f, 0x1193f),
      (0x11941, 0x11941), (0x11a84, 0x11a89), (0x11d46, 0x11d46), (0x11f02, 0x11f02)]

def isWidthless (c : Char) : Bool :=
  Format.ignorable.contains c || Mark.isAttached c || syllableRests.contains c ||
    overlaid.contains c || prefixed.contains c

def columns (c : Char) : Nat :=
  if c = '\u2D7F' then 1
  else if c = '\u115F' || c = '\u17A4' then 2
  else if c = '\u17D8' then 3
  else if isWidthless c then 0
  else if wide.contains c then 2
  else 1

inductive Ligature where
  | alef
  | lamed (joined : Bool)
  | ya (joined : Bool)
  | vowelYa
  | consonant (joined : Bool)
  | joinedConsonant
  | toneLetter
  | orkhonI (joined : Bool)
  | subscriptLetter
  deriving DecidableEq, Repr

inductive FlagName where
  | letters (count : Nat)
  | digits (count : Nat)
  deriving DecidableEq, Repr

/-- What stands behind a character, as far as it can matter to the width. -/
inductive Behind where
  | other
  | emoji
  | skinTone
  | flagLetter
  | flagLetters
  /-- A joiner and an emoji; in the next ones more stands in front of these. -/
  | joinedEmoji
  | joinedKeycap
  | joinedFlagLetter
  | joinedFlags
  | joinedFlagsAndLetter
  | joinedFlagName (name : FlagName)
  | ligature (part : Ligature)
  | vowelE
  | vowelAi
  deriving DecidableEq, Repr

inductive Selector where
  | text
  | emoji
  | fullwidth
  deriving DecidableEq, Repr

/-- The selectors that wait for a character they can apply to. -/
structure Selectors where
  text : Bool
  emoji : Bool
  fullwidth : Bool
  deriving DecidableEq, Repr

namespace Selectors

def empty : Selectors := ⟨false, false, false⟩

def insert (selectors : Selectors) : Selector → Selectors
  | .text => { selectors with text := true }
  | .emoji => { selectors with emoji := true }
  | .fullwidth => { selectors with fullwidth := true }

def withoutEmoji (selectors : Selectors) : Selectors := { selectors with emoji := false }

end Selectors

structure Context where
  behind : Behind
  selectors : Selectors
  deriving DecidableEq, Repr

/-- The columns a character adds, and the context for the one in front of it. -/
abbrev Step := Int × Context

def Context.ofBehind (behind : Behind) : Context := ⟨behind, .empty⟩

def Context.empty : Context := .ofBehind .other

def joiner : Char := '\u200D'

end ElfTables.Width

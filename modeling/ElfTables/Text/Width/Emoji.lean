import ElfTables.Text.Width.Basic

namespace ElfTables.Width

def tagLetters : CodePoints where
  ranges := #[(0xe0061, 0xe007a)]

def tagDigits : CodePoints where
  ranges := #[(0xe0030, 0xe0039)]

namespace FlagName

/-- A name has three to six letters, or three digits and at most four letters. -/
def isComplete : FlagName → Bool
  | .letters count => 3 ≤ count
  | .digits count => count = 3

def addTag? (name : FlagName) (c : Char) : Option FlagName :=
  match name with
  | .letters count =>
    if tagLetters.contains c && count < 6 then some (.letters (count + 1))
    else if tagDigits.contains c && count ≤ 4 then some (.digits 1)
    else none
  | .digits count => if tagDigits.contains c && count < 3 then some (.digits (count + 1)) else none

def add? (name : FlagName) (c : Char) : Option Step :=
  if name.isComplete && c.toNat = 0x1f3f4 then some (0, .ofBehind .emoji)
  else (name.addTag? c).map fun longer => (0, .ofBehind (.joinedFlagName longer))

end FlagName

namespace Behind

def addToJoined? (c : Char) : Option Step :=
  if c = '\u20E3' then some (0, .ofBehind .joinedKeycap)
  else if Emoji.isFlagLetter c then some (1, .ofBehind .joinedFlagLetter)
  else if Emoji.isSkinTone c then some (0, .ofBehind .skinTone)
  else if c.toNat = 0xe007f then some (0, .ofBehind (.joinedFlagName (.letters 0)))
  else if Emoji.presented.contains c then some (0, .ofBehind .emoji)
  else none

def addFlagLetter? : Behind → Option Step
  | .flagLetter | .flagLetters => some (1, .ofBehind .flagLetters)
  | .joinedFlagLetter | .joinedFlagsAndLetter => some (-1, .ofBehind .joinedFlags)
  | .joinedFlags => some (3, .ofBehind .joinedFlagsAndLetter)
  | _ => none

def takesJoiner : Behind → Bool
  | .emoji | .skinTone | .flagLetters | .joinedFlags | .joinedFlagsAndLetter => true
  | _ => false

def addEmoji? (behind : Behind) (c : Char) : Option Step :=
  match behind with
  | .joinedEmoji => addToJoined? c
  | .joinedFlagName name => name.add? c
  | _ =>
    if c = joiner then
      if behind.takesJoiner then some (0, .ofBehind .joinedEmoji) else none
    else if Emoji.isFlagLetter c then behind.addFlagLetter?
    else if behind = .skinTone && Emoji.toned.contains c then some (0, .ofBehind .emoji)
    else none

end Behind

end ElfTables.Width

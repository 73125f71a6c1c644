import ElfTables.Text.Width.Emoji
import ElfTables.Text.Width.Ligature

/-!
Columns that a line takes on a terminal. A line is read from its end, because what a character adds
depends on what stands behind it.
-/
namespace ElfTables.Width

namespace Behind

def ofChar (c : Char) : Behind :=
  if Emoji.presented.contains c then .emoji
  else if Emoji.isSkinTone c then .skinTone
  else if Emoji.isFlagLetter c then .flagLetter
  else if c.toNat = 0x16d67 then .vowelE
  else if c.toNat = 0x16d68 then .vowelAi
  else
    match Ligature.ofChar? c with
    | some part => .ligature part
    | none => .other

def addVowel? (behind : Behind) (c : Char) : Option Step :=
  match behind, c.toNat with
  | .vowelE, 0x16d63 | .vowelE, 0x16d69 | .vowelAi, 0x16d63 => some (0, .empty)
  | .vowelE, 0x16d67 => some (0, .ofBehind .vowelAi)
  | .vowelE, 0x16d68 => some (1, .ofBehind .vowelE)
  | _, _ => none

def add? (behind : Behind) (c : Char) : Option Step :=
  match behind with
  | .ligature part => part.add? c
  | .vowelE | .vowelAi => behind.addVowel? c
  | _ => behind.addEmoji? c

end Behind

def alone (c : Char) : Step := (columns c, .ofBehind (.ofChar c))

def quotationMarks : CodePoints where
  ranges := #[(0x2018, 0x2019), (0x201c, 0x201d)]

def Selector.ofChar? (c : Char) : Option Selector :=
  if c = '\uFE01' then some .fullwidth
  else if c = '\uFE0E' then some .text
  else if c = '\uFE0F' then some .emoji
  else none

namespace Context

/-- What stands behind once the selectors have turned out not to apply. -/
def unselected (context : Context) : Behind :=
  match context.behind with
  | .ligature part => .ligature part
  | behind => if context.selectors = .empty then behind else .other

/-- A selector hides what is behind it, other selectors included. But ligatures form across
selectors, which then wait together, and emoji sequences across one emoji selector. -/
def select (context : Context) (selector : Selector) : Context :=
  match context.unselected, selector with
  | .ligature part, _ => ⟨.ligature part, context.selectors.withoutEmoji.insert selector⟩
  | .joinedEmoji, .emoji => ⟨.joinedEmoji, .insert .empty .emoji⟩
  | .joinedKeycap, .emoji => ⟨.joinedKeycap, .insert .empty .emoji⟩
  | _, _ => ⟨.other, .insert .empty selector⟩

def addSelected? (context : Context) (c : Char) : Option Step :=
  let selectors := context.selectors
  if selectors.emoji && Emoji.selectable.contains c then
    let joined := context.behind = .joinedEmoji || context.behind = .joinedKeycap
    some (if joined then 0 else 2, .ofBehind .emoji)
  else if selectors.text && Emoji.demotable.contains c then some (1, .empty)
  else if selectors.fullwidth && quotationMarks.contains c then some (2, .empty)
  else none

def add (context : Context) (c : Char) : Step :=
  match context.addSelected? c, Selector.ofChar? c with
  | some step, _ => step
  | none, some selector => (0, context.select selector)
  | none, none =>
    if c ≤ '\u00A0' then (1, .empty)
    else (context.unselected.add? c).getD (alone c)

end Context

def measure (line : List Char) : Step :=
  line.foldr (fun c (total, context) =>
    let (added, longer) := context.add c
    (total + added, longer)) (0, .empty)

def ofLine (line : List Char) : Nat := (measure line).1.toNat

end ElfTables.Width

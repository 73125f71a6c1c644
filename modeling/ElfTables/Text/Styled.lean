import ElfTables.Text.Terminal

namespace ElfTables

inductive Emphasis where
  | plain
  | strong
  | wrong
  | alarm
  deriving DecidableEq, Repr

structure Span where
  emphasis : Emphasis
  text : String
  deriving DecidableEq, Repr

abbrev Styled := List Span

def Emphasis.codes : Emphasis → List String
  | .plain => []
  | .strong => ["1"]
  | .wrong => ["33"]
  | .alarm => ["1", "31"]

def Span.written (span : Span) : String :=
  match span.emphasis.codes with
  | [] => span.text
  | codes => String.join (codes.map fun code => s!"\x1b[{code}m") ++ span.text ++ "\x1b[0m"

namespace Styled

def written (message : Styled) : String := String.join (message.map Span.written)

def shown (message : Styled) (colours : Bool) : String :=
  if colours then message.written else Terminal.plain message.written

end Styled

end ElfTables

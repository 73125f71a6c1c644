namespace ElfTables

inductive Tint where
  | yellow
  | red
  | boldRed
  deriving DecidableEq, Repr

namespace Tint

def code : Tint → String
  | .yellow => "33"
  | .red => "31"
  | .boldRed => "1;31"

def opening (tint : Tint) : String := "\x1b[" ++ tint.code ++ "m"

def closing : String := "\x1b[0m"

/-- Where a text closes colours itself, the colour is opened again. -/
def resume (opening : List Char) : List Char → List Char
  | [] => []
  | '\x1b' :: '[' :: '0' :: 'm' :: rest => closing.toList ++ opening ++ resume opening rest
  | c :: rest => c :: resume opening rest

def paint (tint : Tint) (colours : Bool) (text : String) : String :=
  if colours then
    tint.opening ++ String.ofList (resume tint.opening.toList text.toList) ++ closing
  else text

end Tint

end ElfTables

import ElfTables.Text.Width.Line

namespace ElfTables.Grid

def lines : List Char → List (List Char)
  | [] => [[]]
  | c :: rest =>
    if c = '\n' then [] :: lines rest
    else
      match lines rest with
      | [] => [[c]]
      | line :: more => (c :: line) :: more

def cellWidth (cell : List Char) : Nat := ((lines cell).map Width.ofLine).foldl max 0

def columnWidths (table : List (List (List Char))) : List Nat :=
  table.foldl (fun widths row => List.zipWithAll widen widths (row.map cellWidth)) []
where
  widen (left right : Option Nat) : Nat := max (left.getD 0) (right.getD 0)

def framed (width : Nat) (line : List Char) : List Char :=
  ' ' :: (line ++ List.replicate (width - Width.ofLine line) ' ' ++ [' '])

def rowLine (widths : List Nat) (row : List (List Char)) (index : Nat) : List Char :=
  ['|'].intercalate
    (List.zipWith (fun width cell => framed width ((lines cell).getD index [])) widths row)

def rowHeight (row : List (List Char)) : Nat :=
  (row.map fun cell => (lines cell).length).foldl max 1

def rowLines (widths : List Nat) (row : List (List Char)) : List (List Char) :=
  (List.range (rowHeight row)).map (rowLine widths row)

def rule (widths : List Nat) : List Char :=
  ['+'].intercalate (widths.map fun width => List.replicate (width + 2) '-')

def render (titles : List (List Char)) (rows : List (List (List Char))) : List Char :=
  let widths := columnWidths (titles :: rows)
  ['\n'].intercalate (rowLines widths titles ++ rule widths :: rows.flatMap (rowLines widths))

end ElfTables.Grid

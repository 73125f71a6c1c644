import ElfTables.Text.Grid
import ElfTables.Proofs.JsonText

namespace ElfTables.Grid

variable {cell : List Char} {row : List (List Char)} {table : List (List (List Char))}

theorem lines_of_not_mem (single : '\n' ∉ cell) : lines cell = [cell] := by
  induction cell with
  | nil => rfl
  | cons c rest ih =>
      rw [List.mem_cons, not_or] at single
      rw [lines, if_neg (Ne.symm single.1), ih single.2]

theorem infix_framed (width : Nat) (line : List Char) : line <:+: framed width line :=
  ⟨[' '], List.replicate (width - Width.ofLine line) ' ' ++ [' '], by simp [framed]⟩

theorem infix_intercalate {part separator : List Char} {parts : List (List Char)}
    (member : part ∈ parts) : part <:+: separator.intercalate parts := by
  cases parts with
  | nil => cases member
  | cons first rest =>
      rw [Json.intercalate_cons]
      rcases List.mem_cons.mp member with rfl | member
      · exact (List.prefix_append _ _).isInfix
      · have behind : separator ++ part <:+: rest.flatMap fun item => separator ++ item :=
          List.infix_of_mem_flatten (List.mem_map_of_mem member)
        exact (List.suffix_append _ _).isInfix.trans
          (behind.trans (List.suffix_append _ _).isInfix)

section Widths

theorem length_zipWithAll (widen : Option Nat → Option Nat → Nat) (left right : List Nat) :
    (List.zipWithAll widen left right).length = max left.length right.length := by
  induction left generalizing right with
  | nil => simp
  | cons first left ih =>
      cases right with
      | nil => simp
      | cons second right =>
          rw [List.zipWithAll_cons_cons, List.length_cons, ih, List.length_cons, List.length_cons]
          omega

theorem length_le_foldl_widths (table : List (List (List Char))) (start : List Nat) :
    let widths := table.foldl
      (fun widths row => List.zipWithAll columnWidths.widen widths (row.map cellWidth)) start
    start.length ≤ widths.length ∧ ∀ row ∈ table, row.length ≤ widths.length := by
  -- The induction is on the rows still to come: a row only widens the columns.
  induction table generalizing start with
  | nil => simp
  | cons row rest ih =>
      rcases ih (List.zipWithAll columnWidths.widen start (row.map cellWidth))
        with ⟨kept, others⟩
      rw [length_zipWithAll, List.length_map, Nat.max_le] at kept
      constructor
      · exact kept.1
      · intro other member
        rcases List.mem_cons.mp member with rfl | member
        · exact kept.2
        · exact others other member

theorem length_le_columnWidths (member : row ∈ table) : row.length ≤ (columnWidths table).length :=
  (length_le_foldl_widths table []).2 row member

end Widths

theorem infix_rowLine {widths : List Nat} (enough : row.length ≤ widths.length)
    (member : cell ∈ row) (single : '\n' ∉ cell) : cell <:+: rowLine widths row 0 := by
  rcases List.getElem_of_mem member with ⟨index, inside, rfl⟩
  have reaches : index < widths.length := Nat.lt_of_lt_of_le inside enough
  have framed_there : framed widths[index] row[index] ∈
      List.zipWith (fun width cell => framed width ((lines cell).getD 0 [])) widths row := by
    rw [List.mem_iff_getElem]
    refine ⟨index, by simp [inside, reaches], ?_⟩
    rw [List.getElem_zipWith, lines_of_not_mem single]
    rfl
  exact (infix_framed _ _).trans (infix_intercalate framed_there)

theorem le_foldl_max (heights : List Nat) (least : Nat) : least ≤ heights.foldl max least := by
  induction heights generalizing least with
  | nil => exact Nat.le_refl least
  | cons height rest ih => exact (Nat.le_max_left least height).trans (ih (max least height))

theorem rowLine_mem_rowLines (widths : List Nat) (row : List (List Char)) :
    rowLine widths row 0 ∈ rowLines widths row := by
  have some_line : 0 < rowHeight row := le_foldl_max _ 1
  exact List.mem_map_of_mem (List.mem_range.mpr some_line)

theorem infix_render (titles : List (List Char)) (listed : row ∈ table) (member : cell ∈ row)
    (single : '\n' ∉ cell) : cell <:+: render titles table := by
  have enough : row.length ≤ (columnWidths (titles :: table)).length :=
    length_le_columnWidths (List.mem_cons_of_mem _ listed)
  have line_there : rowLine (columnWidths (titles :: table)) row 0 ∈
      table.flatMap (rowLines (columnWidths (titles :: table))) :=
    List.mem_flatMap.mpr ⟨row, listed, rowLine_mem_rowLines _ _⟩
  apply (infix_rowLine enough member single).trans
  apply infix_intercalate
  exact List.mem_append_right _ (List.mem_cons_of_mem _ line_there)

end ElfTables.Grid

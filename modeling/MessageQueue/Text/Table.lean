/-!
# Text tables

A table of text cells with a rule above and below every row.  Every column is as wide as
its widest cell, and every cell has a blank on either side.

Main results:

- Theorem `length_le_columnWidth`: a column holds each of its cells.
-/

namespace MessageQueue
namespace Text

/-- The length of the longest of some cells. -/
def columnWidth (cells : List String) : Nat :=
  (cells.map String.length).foldr max 0

/-- A column holds each of its cells. -/
theorem length_le_columnWidth {cells : List String} {c : String} (h : c ∈ cells) :
    c.length ≤ columnWidth cells := by
  unfold columnWidth
  induction cells with
  | nil => simp at h
  | cons d rest ih =>
    simp only [List.map_cons, List.foldr_cons]
    rcases List.mem_cons.1 h with rfl | h
    · exact Nat.le_max_left _ _
    · exact Nat.le_trans (ih h) (Nat.le_max_right _ _)

/-- The widths of the columns of some rows, which all have as many cells. -/
def columnWidths : (columns : Nat) → (rows : List (List String)) → List Nat
  | 0, _ => []
  | n + 1, rows =>
    columnWidth (rows.map fun r => r.headD "") :: columnWidths n (rows.map List.tail)

/-- So many copies of a character. -/
def copies (n : Nat) (c : Char) : String :=
  String.ofList (List.replicate n c)

/-- The rule between rows. -/
def tableRule (widths : List Nat) : String :=
  "+" ++ String.join (widths.map fun w => copies (w + 2) '-' ++ "+")

/-- A row of cells. -/
def tableRow (widths : List Nat) (cells : List String) : String :=
  "|" ++ String.join ((widths.zip cells).map fun (w, c) =>
    " " ++ c ++ copies (w - c.length) ' ' ++ " |")

/-- A table with a row of headings above the other rows, without a line end after it. -/
def table (headings : List String) (rows : List (List String)) : String :=
  let widths := columnWidths headings.length (headings :: rows)
  let rule := tableRule widths
  "\n".intercalate
    (rule :: (headings :: rows).flatMap fun cells => [tableRow widths cells, rule])

end Text
end MessageQueue

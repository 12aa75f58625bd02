import DeployService.Command.Console
import DeployService.Text.Blank

/-!
# Tables

Rows of cells as left-aligned columns under a header. A column is as wide as the longest encoding of
one of its cells in bytes, so that no cell is ever cut; cells are filled up with spaces to that many
characters. Between two columns there are three spaces, and at the end of a line there are none.

A width is formatted as a number of 16 bits. A cell that would have to be filled up to more
characters than that ends the program.
-/

namespace DeployService.Table

/-- The widths of the columns after a further row. Cells beyond the last column do not count. -/
def widen : List Nat → List String → List Nat
  | [], _ => []
  | widths, [] => widths
  | width :: widths, cell :: cells => max width cell.utf8ByteSize :: widen widths cells

/-- The widths of the columns. -/
def widths (header : List String) (rows : List (List String)) : List Nat :=
  rows.foldl widen (header.map String.utf8ByteSize)

/-- The largest width that a text can be filled up to. -/
def maxWidth : Nat := 65535

/-- The characters of a text, filled up with spaces. -/
def filled (width : Nat) (s : String) : List Char :=
  s.toList ++ List.replicate (width - s.length) ' '

/-- What comes of a column that is wider than `maxWidth`. -/
def widthOutOfRange : Error := .panic "Formatting argument out of range"

/-- Fills up a text with spaces. -/
def padRight (width : Nat) (s : String) : Except Error (List Char) :=
  if width ≤ maxWidth then .ok (filled width s) else .error widthOutOfRange

/-- The space between two columns. -/
def gap : List Char := [' ', ' ', ' ']

/-- A row with every cell filled up to the width of its column. -/
def rowChars (widths : List Nat) (cells : List String) : Except Error (List Char) := do
  let cells ← (cells.zip widths).mapM fun (cell, width) => padRight width cell
  return gap.intercalate cells

/-- A row as a line. -/
def line (widths : List Nat) (cells : List String) : Except Error String := do
  let chars ← rowChars widths cells
  return String.ofList (Text.trimEnd chars)

variable {σ : Type}

/-- Prints rows in columns of the given widths. -/
def printRows (widths : List Nat) : List (List String) → Call (Console σ) Unit
  | [] => pure ()
  | row :: rows => do
    let line ← Call.ofExcept (line widths row)
    Console.say line
    printRows widths rows

/-- Prints a table. -/
def print (header : List String) (rows : List (List String)) : Call (Console σ) Unit :=
  printRows (widths header rows) (header :: rows)

end DeployService.Table

import Agenda.Text.Width

/-!
# Grids

A grid shows rows of cells under a row of headings, with lines of ASCII characters around them.  A column
is as wide as its widest line; a cell with line feeds takes several lines.

* `grid` — the text of a grid.
-/

namespace Agenda.CommandLine

open Text

def cellLines (cell : String) : List (List Char) := cell.toList.splitOn '\n'

def cellWidth (cell : String) : Nat := ((cellLines cell).map width).foldl max 0

def columnWidths (rows : List (List String)) : List Nat :=
  rows.foldl (fun widths row => List.zipWith max widths (row.map cellWidth))
    ((rows.head?.getD []).map cellWidth)

/-- A line of a cell, filled up with spaces. -/
def filledUp (columns : Nat) (line : List Char) : List Char :=
  line ++ List.replicate (columns - width line) ' '

def gridRow (widths : List Nat) (row : List String) : List (List Char) :=
  let cells := row.map cellLines
  let height := (cells.map List.length).foldl max 0
  (List.range height).map fun i =>
    let parts := List.zipWith (fun columns lines => ' ' :: filledUp columns ((lines[i]?).getD []) ++ [' '])
      widths cells
    '|' :: ['|'].intercalate parts ++ ['|']

/-- A line between rows, with these characters at its ends and between columns. -/
def gridRule (stop cross : Char) (widths : List Nat) : List Char :=
  stop :: [cross].intercalate (widths.map fun columns => List.replicate (columns + 2) '-') ++ [stop]

/-- The line under the headings, which has no crosses. -/
def headingRule (widths : List Nat) : List Char :=
  '+' :: ['='].intercalate (widths.map fun columns => List.replicate (columns + 2) '=') ++ ['+']

def grid (headings : List String) (rows : List (List String)) : String :=
  let widths := columnWidths (headings :: rows)
  let between := ['\n'] ++ gridRule '|' '+' widths ++ ['\n']
  let body := between.intercalate (rows.map fun row => ['\n'].intercalate (gridRow widths row))
  String.ofList (['\n'].intercalate
    ([gridRule '+' '+' widths] ++ gridRow widths headings ++ [headingRule widths, body,
      gridRule '+' '+' widths]))

end Agenda.CommandLine

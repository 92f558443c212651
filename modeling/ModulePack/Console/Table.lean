import ModulePack.Console.Markup
import ModulePack.Text.Lines

/-!
# Console tables

A table has a title, a head and rows between lines. A column is as wide as its widest cell. In a
table that is wider than the console the widest column gives way. A cell may have several lines.
-/

namespace ModulePack.Console

structure Column where
  head : List Char
  alignment : Alignment

def cellWidth (cell : Styled) : Nat :=
  ((Text.splitLineEnds cell.chars).map Text.columns).foldl max 0

/-- The widths with the widest one cut to make their sum small enough. -/
def fitWidths (limit : Nat) (widths : List Nat) : List Nat :=
  let widest := widths.foldl max 0
  let excess := widths.foldl (· + ·) 0 - limit
  widths.map fun width => if width = widest then width - excess else width

def rule (left fill middle right : String) (widths : List Nat) : String :=
  left ++ Text.join middle (widths.map fun w =>
    String.join (List.replicate (w + 2) fill)) ++ right

def rowLine (bar : String) (texts : List (List Char)) : String :=
  bar ++ Text.join bar (texts.map fun cs => " " ++ String.ofList cs ++ " ") ++ bar

def cropParts : (width : Nat) → List (List Char) → List Char
  | _, [] => []
  | width, part :: rest =>
    if Text.columns part < width then part ++ cropParts (width - Text.columns part) rest
    else Text.fit width part

/-- A line that takes exactly the width. Each part with a style of its own is measured for itself,
so that no joiner takes a character of another part along. -/
def settleLine (width : Nat) (parts : List (List Char)) : List Char :=
  let used := (parts.map Text.columns).foldl (· + ·) 0
  if used ≤ width then parts.flatten ++ Text.blanks (width - used) else cropParts width parts

def cellLinesFrom (width : Nat) (alignment : Alignment) (cell : Styled) :
    (start : Nat) → List (List Char) → List (List Char)
  | _, [] => []
  | start, line :: rest =>
    (match wrapLine width .ellipsis alignment line with
      | [shown] =>
        let cuts := if '\t' ∈ line then [] else cell.cuts start line.length
        [settleLine width (splitPlaces 0 cuts shown)]
      | lines => lines.map fun shown => settleLine width [shown]) ++
      cellLinesFrom width alignment cell (start + line.length + 1) rest

def cellLines (width : Nat) (alignment : Alignment) (cell : Styled) :
    Except MarkupError (List (List Char)) := do
  let cell ← cell.checked width .ellipsis
  return cellLinesFrom width alignment cell 0 (cell.chars.splitOn '\n')

def rowLines (bar : String) (columns : List (Column × Nat)) (row : List Styled) :
    Except MarkupError (List String) := do
  let cells ← (columns.zip row).mapM fun ((column, width), cell) => do
    return (width, ← cellLines width column.alignment cell)
  let height := (cells.map fun (_, lines) => lines.length).foldl max 1
  return (List.range height).map fun i =>
    rowLine bar (cells.map fun (width, lines) => lines.getD i (Text.blanks width))

/-- The columns that lines and margins take in a table besides the texts. -/
def frameWidth (columns : Nat) : Nat := 3 * columns + 1

def renderTable (limit : Nat) (title : List Char) (columns : List Column)
    (rows : List (List Styled)) : Except MarkupError String := do
  let heads := columns.map fun column => ⟨column.head, []⟩
  let frame := frameWidth columns.length
  let widths := fitWidths (limit - frame) ((List.range columns.length).map fun i =>
    ((heads :: rows).map fun row => cellWidth (row.getD i {})).foldl max 0)
  let sized := columns.zip widths
  let head ← rowLines "┃" sized heads
  let body ← rows.mapM (rowLines "│" sized)
  let lines := (wrap (widths.foldl (· + ·) 0 + frame) .fold .center title).map String.ofList ++
    [rule "┏" "━" "┳" "┓" widths] ++ head ++ [rule "┡" "━" "╇" "┩" widths] ++ body.flatten ++
    [rule "└" "─" "┴" "┘" widths]
  return String.join (lines.map (· ++ "\n"))

end ModulePack.Console

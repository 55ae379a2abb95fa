import DevEnv.Container.Display
import DevEnv.Text.Blank
import DevEnv.Text.Escape
import DevEnv.Text.Lines

/-!
A list of containers as a table in plain text. All columns are set flush left. A cell may have
several lines; they are drawn below each other once any cell of the table has a line break in it.
-/

namespace DevEnv.Container

set_option autoImplicit false

/-- Colours of the state column, by number of the escape code. -/
def stateColor : RunState → Nat
  | .running => 32
  | .exited => 37
  | .paused => 33
  | .other => 34

def stateCell (s : RunState) : String :=
  "\x1b[" ++ toString (stateColor s) ++ "m" ++ s.name ++ "\x1b[0m"

def headings : List String := ["ID", "Name", "Image", "State", "Status", "Ports", "Created"]

/-- The cells of one container; a moment without a date has no cell. -/
def row (c : Container) : Except Timestamp.DisplayFault (List String) := do
  let created ← Timestamp.display c.created
  return [shortId c.id, c.name, c.image, stateCell c.state, c.status, portsText c, created]

/-! ### Cells -/

/-- A cell that makes its row a rule, if it is one of the first two. -/
def isRuleMark (cell : String) : Bool := Text.strip cell == "\x01"

/-- Rows that are drawn as a rule. -/
def isRule (row : List String) : Bool := (row.take 2).any isRuleMark

def isBreak (c : Char) : Bool := c == '\n' || c == '\r'

/-- Whether any cell asks for several lines. -/
def isMultiline (rows : List (List String)) : Bool :=
  rows.any fun row => row.any fun cell => cell.toList.any isBreak

/-- The parts of a cell by which its width is measured. -/
def measured (multiline : Bool) (cell : String) : List (List Char) :=
  if multiline then Text.splitAt isBreak cell.toList else [cell.toList]

/-- The width of a cell; escape sequences take no room. -/
def cellWidth (multiline : Bool) (cell : String) : Nat :=
  ((measured multiline cell).map Text.shownLength).foldl max 0

/-- A line filled up to a width, as if it took as much room as the part measured for it. -/
def filled (width : Nat) (line part : List Char) : String :=
  let room := width + part.length - Text.shownLength part
  String.ofList (line ++ List.replicate (room - line.length) ' ')

/-- A cell filled up to a width. A line for which no part was measured is not drawn. -/
def aligned (multiline : Bool) (width : Nat) (cell : String) : String :=
  let cs := cell.toList
  let lines := if multiline then Text.lines cs else [cs]
  "\n".intercalate (lines.zipWith (filled width) (measured multiline cell))

/-! ### Rows -/

/-- A column is as wide as its widest cell, and two wider than its heading at least. -/
def columnWidths (multiline : Bool) (rows : List (List String)) : List Nat :=
  rows.foldl (fun widths row => widths.zipWith max (row.map (cellWidth multiline)))
    (headings.map fun h => h.length + 2)

/-- Texts side by side without blanks at the end. -/
def lineText (cells : List String) : String :=
  String.ofList (Text.dropTrailing Text.isBlank ("  ".intercalate cells).toList)

/-- The lines of a row of cells that are filled up; a cell with fewer lines is blank below. -/
def rowLines (multiline : Bool) (widths : List Nat) (cells : List String) : List String :=
  if multiline then
    let columns := cells.map fun cell => (Text.lines cell.toList).map String.ofList
    let height := (columns.map List.length).foldl max 0
    (List.range height).map fun i => lineText <|
      columns.zipWith (fun lines w => (lines[i]?).getD ("".pushn ' ' w)) widths
  else [lineText cells]

def ruleText (widths : List Nat) : String := "  ".intercalate (widths.map fun w => "".pushn '-' w)

/-- The table of rows under the headings and a rule. -/
def tableText (rows : List (List String)) : String :=
  let drawn := rows.filter fun row => !isRule row
  let multiline := isMultiline drawn
  let align (widths : List Nat) (row : List String) : List String :=
    widths.zipWith (aligned multiline) row
  let room := columnWidths multiline (drawn.map fun row => row.map Text.strip)
  let filled := fun row => align room (row.map Text.strip)
  let widths := columnWidths multiline (drawn.map filled)
  let rule := ruleText widths
  "\n".intercalate <|
    rowLines multiline widths (align widths headings) ++ rule ::
      rows.flatMap fun row => if isRule row then [rule] else rowLines multiline widths (filled row)

def table (cs : List Container) : Except Timestamp.DisplayFault String :=
  (cs.mapM row).map tableText

end DevEnv.Container

import VDiagnostics.Keyed
import VDiagnostics.Text.LineEnd
import VDiagnostics.Text.Wrap
import VDiagnostics.View.Label

/-! The report lists every diagnostic in a table, by code point order of the files. On a terminal it has
heavy lines around the header and light ones below. -/

namespace VDiagnostics

namespace View

structure Row where
  location : Text
  severity : Severity
  message : Text
  deriving DecidableEq

namespace Row

def ofDiagnostic (cwd root : Text) (diagnostic : Diagnostic) : Except Fault Row :=
  (label cwd root diagnostic).map fun location =>
    ⟨location, diagnostic.severity, diagnostic.message⟩

def ofDiagnostics (cwd root : Text) (diagnostics : List Diagnostic) : Except Fault (List Row) :=
  diagnostics.mapM (ofDiagnostic cwd root)

end Row

namespace Report

def title : Text := "V diagnostics".toList

structure Column where
  title : Text
  /-- Whether a line that is too wide is broken between words. -/
  wraps : Bool
  deriving DecidableEq

def columns : List Column :=
  [⟨"Location".toList, false⟩, ⟨"Severity".toList, false⟩, ⟨"Message".toList, true⟩]

def rows (cwd root : Text) (entries : Keyed (List Diagnostic)) : Except Fault (List Row) :=
  ((Keyed.sorted entries).mapM fun entry => Row.ofDiagnostics cwd root entry.2).map List.flatten

def cells (row : Row) : List Text :=
  [row.location, row.severity.name, row.message].map Text.onTerminal

/-- The header counts like a row of its own. -/
def headerCells : List Text :=
  columns.map (·.title)

/-- A cell is as wide as the widest of its lines, whatever ends them. -/
def cellWidth (cell : Text) : Nat :=
  ((Text.broken cell).map Text.width).foldl max 0

/-- A column is as wide as its widest cell. -/
def columnWidths (table : List (List Text)) : List Nat :=
  table.foldl (fun widths row => List.zipWith max widths (row.map cellWidth)) [0, 0, 0]

/-- The lines of a cell in its column. Only line feeds begin a new one, so a line may be too wide. -/
def cellLines (column : Column) (width : Nat) (cell : Text) : List Text :=
  ((Text.lines cell).flatMap fun line => if column.wraps then Text.wrapped width line else [line]).map
    (Text.fitted width)

def rowLines (widths : List Nat) (row : List Text) : List (List Text) :=
  (columns.zip (widths.zip row)).map fun (column, width, cell) => cellLines column width cell

/-- What is drawn at the left, between columns and at the right. -/
structure Rule where
  left : Char
  line : Char
  between : Char
  right : Char

def topRule : Rule := ⟨'┏', '━', '┳', '┓'⟩

def headerRule : Rule := ⟨'┡', '━', '╇', '┩'⟩

def bottomRule : Rule := ⟨'└', '─', '┴', '┘'⟩

def drawRule (rule : Rule) (widths : List Nat) : Text :=
  rule.left :: [rule.between].intercalate (widths.map fun width => List.replicate (width + 2) rule.line) ++
    [rule.right, '\n']

/-- One line of a row. A cell that has no such line is blank there. -/
def drawLine (border : Char) (widths : List Nat) (cells : List (List Text)) (place : Nat) : Text :=
  border :: [border].intercalate (List.zipWith
      (fun width lines => ' ' :: lines.getD place (List.replicate width ' ') ++ [' ']) widths cells) ++
    [border, '\n']

def drawRow (border : Char) (widths : List Nat) (row : List Text) : Text :=
  let cells := rowLines widths row
  (List.range ((cells.map List.length).foldl max 0)).flatMap (drawLine border widths cells)

/-- The title in the middle of the table. What cannot be halved goes to the right. -/
def drawTitle (widths : List Nat) : Text :=
  let total := widths.foldl (fun total width => total + width + 3) 1
  Text.padded total (List.replicate ((total - title.length) / 2) ' ' ++ title) ++ ['\n']

def render (rows : List Row) : Text :=
  let body := rows.map cells
  let widths := columnWidths (headerCells :: body)
  drawTitle widths ++ drawRule topRule widths ++ drawRow '┃' widths headerCells ++
    drawRule headerRule widths ++ body.flatMap (drawRow '│' widths) ++ drawRule bottomRule widths

end Report

end View

end VDiagnostics

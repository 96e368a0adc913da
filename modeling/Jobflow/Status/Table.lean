import Jobflow.Fault
import Jobflow.Text.Blank

/-!
# Tables and reports

A table has a title, headers, rows of cells and notes. It is shown as text: the title over
a rule, the headers and rows in columns as wide as their longest text, two blanks between
columns, rules around the rows, and the notes below. A report is either a message or a
number of tables.
-/

namespace Jobflow.Status

/-- A table of values. -/
structure Table where
  /-- The line above the table. -/
  title : String
  /-- The headers of the columns. -/
  headers : List Value := []
  /-- The rows. -/
  rows : List (List Value) := []
  /-- The lines below the table. -/
  notes : List String := []

namespace Table

/-- The characters of a cell. -/
def cellText (cell : Value) : List Char := cell.str.toList

/-- The widths after a further row, unless it has more cells than there are columns. -/
def widen : List Nat → List Value → Except Mishap (List Nat)
  | widths, [] => .ok widths
  | [], _ :: _ => .error .missingCell
  | width :: widths, cell :: cells =>
    return max width (cellText cell).length :: (← widen widths cells)

/-- The widths of the columns: the length of the longest text in each. -/
def widths (table : Table) : Except Mishap (List Nat) :=
  table.rows.foldlM widen (table.headers.map fun header => (cellText header).length)

/-- A text with blanks after it up to a width. -/
def padTo (width : Nat) (text : List Char) : List Char :=
  text ++ List.replicate (width - text.length) ' '

/-- What stands between two columns. -/
def gap : List Char := [' ', ' ']

/-- The cells of a row in their columns. -/
def rowLine (widths : List Nat) (cells : List Value) : List Char :=
  Text.trimRight
    (gap.intercalate ((cells.zip widths).map fun (cell, width) => padTo width (cellText cell)))

/-- The length of the rules: they span the title and all columns. -/
def ruleLength (title : String) (widths : List Nat) : Nat :=
  max title.length (widths.foldl Nat.add 0 + gap.length * (widths.length - 1))

/-- The lines of a table. -/
def textLines (table : Table) : Except Mishap (List (List Char)) := do
  let widths ← table.widths
  let rule := List.replicate (ruleLength table.title widths) '-'
  let body :=
    if table.headers.isEmpty then []
    else rowLine widths table.headers :: rule :: table.rows.map (rowLine widths) ++ [rule]
  return table.title.toList :: rule :: body ++ table.notes.map String.toList

/-- The text of a table. -/
def render (table : Table) : Except Mishap String := do
  let lines ← table.textLines
  return Text.join "\n" (lines.map String.ofList) ++ "\n"

/-- The quoted form of a table. -/
def repr (table : Table) : String :=
  "<Table(title=" ++ Text.quote table.title ++ ", rows=" ++ toString table.rows.length ++ ")>"

end Table

/-- The result of a status query: a message when there is nothing to tabulate, or tables. -/
structure Report where
  /-- The message, if any. -/
  message : Value := .null
  /-- The tables. -/
  tables : List Table := []

namespace Report

/-- The text of a report: its message, or its tables with an empty line between them. -/
def render (report : Report) : Except Mishap String :=
  if report.message.truthy then .ok (report.message.str ++ "\n")
  else return Text.join "\n" (← report.tables.mapM Table.render)

/-- The quoted form of a report. -/
def repr (report : Report) : String :=
  "<Report(message=" ++ report.message.repr ++ ", tables=" ++ toString report.tables.length ++ ")>"

end Report

end Jobflow.Status

import SchemaLint.Json.Printer
import SchemaLint.Report.Basic
import SchemaLint.Text.Ansi

/-!
# Reports as lines and as records

One line of text a diagnostic, and a line that sums the report up; both plain or coloured. Diagnostics
are also written as JSON records: all of them as one array, or each on a line of its own.
-/

namespace SchemaLint

open Text (Color Ansi.bold Ansi.colored Ansi.dark)

/-- The colour of a severity. -/
def Severity.color : Severity → Color
  | error => .red
  | warning => .yellow

/-- The diagnostic as a coloured line. -/
def Diagnostic.coloredText (d : Diagnostic) : String :=
  let severity := Ansi.bold d.severity.color s!"{d.severity.label}:"
  let place := Ansi.colored .blue s!"({d.location.text})"
  let rule := Ansi.dark s!"[{d.rule}]"
  s!"{severity} {d.message} {place} {rule}"

namespace Report

/-- The diagnostics of a report, each on a line. -/
def lines (r : Report) (color : Bool) : String :=
  String.join (r.diagnostics.map fun d => (if color then d.coloredText else d.text) ++ "\n")

/-- The colour of a report as a whole. -/
def color (r : Report) : Color :=
  if r.errors ≠ 0 then .red else if r.total ≠ 0 then .yellow else .green

/-- The line that sums the report up, without a line end. -/
def closingLine (r : Report) (color : Bool) : String :=
  let line := s!"{r.source}: {r.summary}"
  if color then Ansi.bold r.color line else line

/-- The records as an array, indented. -/
def jsonText (r : Report) : String := (Json.arr r.records).indented ++ "\n"

/-- The records line by line. -/
def jsonLines (r : Report) : String := String.join (r.records.map (·.compact ++ "\n"))

end Report
end SchemaLint

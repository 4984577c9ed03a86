import SchemaLint.Report.Html
import SchemaLint.Report.Lines
import SchemaLint.Report.Sarif
import SchemaLint.Text.Quoted

/-!
# Formats

The formats in which a report can be written.
-/

namespace SchemaLint

/-- A format of reports. -/
inductive Format where
  | text | json | jsonl | sarif | html
  deriving DecidableEq, Repr

namespace Format

/-- All formats. -/
def all : List Format := [text, json, jsonl, sarif, html]

/-- The name of a format. -/
def name : Format → String
  | text => "text"
  | json => "json"
  | jsonl => "jsonl"
  | sarif => "sarif"
  | html => "html"

/-- The format of a name. -/
def ofName? (s : String) : Option Format := all.find? (·.name == s)

/-- The wording of the problem that a name is that of no format. -/
def unknown (s : String) : String :=
  let names := ", ".intercalate (all.map name)
  s!"unknown output format {Text.quoted s}; choose from {names}"

end Format

/-- The report in a format. Only lines of text can be coloured, and only pages have templates. -/
def Report.render (r : Report) (format : Format) (color : Bool) (template : Option String) :
    String :=
  match format with
  | .text => r.lines color
  | .json => r.jsonText
  | .jsonl => r.jsonLines
  | .sarif => r.sarif .standard
  | .html => r.html template

end SchemaLint

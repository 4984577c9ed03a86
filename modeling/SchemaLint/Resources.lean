import SchemaLint.Lint.Basic
import SchemaLint.Options.Reader
import SchemaLint.Report.Format

/-!
# Resources

What the linter is built on and does not know from the inside: a parser of the schema language, a
reader of YAML, a renderer of templates, and the stack of calls. Each of the three libraries may break
down instead of giving an answer.

Of the three there is a version here for the texts that usually occur. A parser that goes deeper, or
runs out of calls, a reader that knows tags, dates, numbers to the base 60 and merged maps, and a
renderer of templates with statements, filters and attributes are other resources. What is true of the
linter is true of it with any of them.
-/

namespace SchemaLint

/-- What the linter is built on.

* `parse`: the document of a text in a source, or what is wrong with it;
* `readYaml`: the value of a YAML text, or what is wrong with it;
* `fillTemplate`: the page that a template makes of some content;
* `room`: how many values within each other can be written before there is no room for more calls. -/
structure Resources where
  parse : String → String → Except Breakdown (Except Sdl.Fault Sdl.Document)
  readYaml : String → Except Breakdown (Except Yaml.Fault Value)
  fillTemplate : String → PageContent → Except Breakdown String
  room : Nat

namespace Resources

/-- The resources for texts that usually occur, of which none breaks down. -/
def standard : Resources where
  parse := fun text source => .ok (Sdl.Document.read text source)
  readYaml := fun text => .ok (Yaml.read text)
  fillTemplate := fun template content => .ok (Text.Markup.fill content.slot template)
  room := Value.defaultRoom

variable (r : Resources)

/-- The answer of a library, of which a breakdown stops the linter. -/
def answer {α : Type} (outcome : Except Breakdown α) : Except Failure α :=
  outcome.mapError fun b => .trouble (.breakdown b)

/-- The schema document of a text. -/
def document (text source : String) : Except Failure Sdl.Document := do
  let read ← answer (r.parse text source)
  let d ← (Sdl.Document.ofRead source read).mapError Failure.problem
  (Sdl.Document.asSchema source d).mapError Failure.problem

/-- The report of a linter on a text. -/
def lint (l : Linter) (text source : String) : Except Failure Report := do
  let d ← r.document text source
  (l.lint d (some source)).mapError Failure.problem

/-- The options that a configuration text describes. -/
def options (text source : String) : Except Failure Options := do
  Options.ofRead source r.room (← answer (r.readYaml text))

/-- The page that a template makes of a report. -/
def page (template : String) (report : Report) : Except Failure String :=
  answer (r.fillTemplate template report.content)

end Resources
end SchemaLint

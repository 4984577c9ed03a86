import SchemaLint.Lint.Run
import SchemaLint.Report.Basic
import SchemaLint.Schema.Build
import SchemaLint.Schema.Read

/-!
# Linting

A schema is linted in four steps: it is read, made a table, put to the rules, and what they find is
made a report. Each step may meet a problem, and then there is no report. Options that name unknown
rules are refused before the table is made.
-/

namespace SchemaLint

/-- Everything that decides what a schema is told. Without a judgement of its own a linter judges by
names. -/
structure Linter where
  options : Options
  catalog : Catalog
  judgement : Option Judgement

namespace Linter

/-- The linter with the standard catalog. -/
def standard (options : Options) : Linter := ⟨options, .standard, none⟩

/-- The rules that the linter runs. -/
def rules (l : Linter) : Except Problem (List Rule) := l.catalog.orStandard.rulesFor l.options

/-- What the rules of the linter look at. -/
def context (l : Linter) (table : Table) : Context :=
  ⟨table, l.options, l.judgement.getD (.ofNames l.options.allowed.names)⟩

/-- The suppressions that are in force for a document. -/
def suppressions (l : Linter) (d : Sdl.Document) : Suppressions :=
  Suppressions.ofDocument d ++ l.options.ignore.map fun e => .onPath e.pattern [e.rule]

/-- Runs the linter over a table. -/
def run (l : Linter) (table : Table) (suppressions : Suppressions) : Except Problem Run := do
  return .ofRules (← l.rules) (l.context table) suppressions

/-- The report of a run. -/
def report (l : Linter) (table : Table) (r : Run) : Report :=
  .aggregate (.ofCatalog l.catalog.orStandard) r.suppressed table.source r.kept

/-- Lints a document. -/
def lint (l : Linter) (d : Sdl.Document) (source : Option String) : Except Problem Report := do
  let rules ← l.rules
  let table ← Table.build d source
  return l.report table (.ofRules rules (l.context table) (l.suppressions d))

/-- Lints a text. -/
def lintText (l : Linter) (text source : String) : Except Problem Report := do
  l.lint (← Sdl.Document.ofText text source) (some source)

end Linter
end SchemaLint

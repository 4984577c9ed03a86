import SchemaLint.Catalog.Basic

/-!
# Reports

A report holds different diagnostics in a fixed order: by type, field and argument, then by the place
of the rule in the catalog, then by all the rest. What is counted and the verdict follow from the
diagnostics; only errors make a report fail.
-/

namespace SchemaLint

/-! ## What the program says about itself -/

namespace Program

/-- The name of the program. -/
def name : String := "gqlstyle"

/-- The version of the program. -/
def version : String := "0.1.0"

/-- Where the program is at home. -/
def home : String := "https://github.com/gqlstyle/gqlstyle"

end Program

/-! ## The order of diagnostics -/

/-- Places of rules, which decide between diagnostics about one entity. A rule without a place comes
behind as many others as there are places. -/
abbrev RuleOrder := List (String × Int)

namespace RuleOrder

/-- The place of a rule. -/
def place (order : RuleOrder) (id : String) : Int :=
  ((order.find? (·.1 == id)).map (·.2)).getD order.length

/-- The places of the rules of a catalog. -/
def ofCatalog (c : Catalog) : RuleOrder := c.order.map fun e => (e.1, e.2)

end RuleOrder

/-- What decides the order of diagnostics, the most important first. -/
structure SortKey where
  typeName : String
  fieldName : String
  argumentName : String
  place : Int
  rule : String
  message : String
  line : Int
  column : Int
  severity : String
  fix : String
  deriving DecidableEq, Repr

namespace SortKey

/-- The order of keys. -/
def compare (a b : SortKey) : Ordering :=
  (Ord.compare a.typeName b.typeName).then <|
  (Ord.compare a.fieldName b.fieldName).then <|
  (Ord.compare a.argumentName b.argumentName).then <|
  (Ord.compare a.place b.place).then <|
  (Ord.compare a.rule b.rule).then <|
  (Ord.compare a.message b.message).then <|
  (Ord.compare a.line b.line).then <|
  (Ord.compare a.column b.column).then <|
  (Ord.compare a.severity b.severity).then <|
  Ord.compare a.fix b.fix

/-- The key of a diagnostic. -/
def ofDiagnostic (order : RuleOrder) (d : Diagnostic) : SortKey where
  typeName := d.location.typeName
  fieldName := d.location.fieldName.getD ""
  argumentName := d.location.argumentName.getD ""
  place := order.place d.rule
  rule := d.rule
  message := d.message
  line := d.location.line
  column := d.location.column
  severity := d.severity.label
  fix := d.fix.getD ""

end SortKey

/-! ## Verdicts -/

/-- The verdict on a schema. -/
inductive Verdict where
  | pass | fail
  deriving DecidableEq, Repr

namespace Verdict

/-- The word for a verdict. -/
def text : Verdict → String
  | pass => "pass"
  | fail => "fail"

/-- The exit code that tells a verdict. -/
def exitCode : Verdict → Nat
  | pass => 0
  | fail => 1

end Verdict

/-! ## Reports -/

/-- What the linter has to say about a schema. -/
structure Report where
  diagnostics : List Diagnostic
  suppressed : Nat
  source : String
  deriving DecidableEq, Repr

namespace Report

/-- The report of some diagnostics, which may come in any order and repeatedly. -/
def aggregate (order : RuleOrder) (suppressed : Nat) (source : String) (ds : List Diagnostic) :
    Report :=
  let before (a b : Diagnostic) : Bool :=
    (SortKey.compare (.ofDiagnostic order a) (.ofDiagnostic order b)).isLE
  ⟨ds.eraseDups.mergeSort before, suppressed, source⟩

/-- The diagnostics of a severity. -/
def bySeverity (r : Report) (severity : Severity) : List Diagnostic :=
  r.diagnostics.filter (·.severity == severity)

/-- The diagnostics of a rule. -/
def byRule (r : Report) (id : String) : List Diagnostic := r.diagnostics.filter (·.rule == id)

/-- Number of errors. -/
def errors (r : Report) : Nat := r.diagnostics.countP (·.severity == .error)

/-- Number of warnings. -/
def warnings (r : Report) : Nat := r.diagnostics.countP (·.severity == .warning)

/-- Number of diagnostics. -/
def total (r : Report) : Nat := r.diagnostics.length

/-- The verdict. -/
def verdict (r : Report) : Verdict := if r.errors = 0 then .pass else .fail

/-- A number of things, with an `s` if there is not just one. -/
def numberOf (n : Nat) (thing : String) : String :=
  let plural := if n = 1 then "" else "s"
  s!"{n} {thing}{plural}"

/-- The numbers of what was found and of what was suppressed. -/
def summary (r : Report) : String :=
  let parts :=
    (if r.errors = 0 then [] else [numberOf r.errors "error"]) ++
    (if r.warnings = 0 then [] else [numberOf r.warnings "warning"])
  let found :=
    if parts.isEmpty then "no diagnostics emitted"
    else "; ".intercalate parts ++ s!" ({r.total} total)"
  if r.suppressed = 0 then found else s!"{found}, {r.suppressed} suppressed"

/-- The diagnostics as records. -/
def records (r : Report) : List Json := r.diagnostics.map (·.toRecord)

/-- The diagnostics as lines of text, without a line end behind the last. -/
def text (r : Report) : String := "\n".intercalate (r.diagnostics.map (·.text))

end Report
end SchemaLint

import SchemaLint.Json.Printer
import SchemaLint.Report.Basic

/-!
# Reports as SARIF logs

SARIF 2.1.0 is a JSON format of analysis results. A log lists each rule once, in the order of first
use, and one result a diagnostic, which refers to its rule by place.
-/

namespace SchemaLint

/-- What a log tells about a rule. -/
structure SarifRule where
  id : String
  description : String
  level : String
  deriving DecidableEq, Repr

/-- A log that is being written. -/
structure SarifLog where
  rules : List SarifRule
  results : List (Nat × Json)

namespace SarifLog

/-- The log without results. -/
def empty : SarifLog := ⟨[], []⟩

/-- What a log tells about the rule of an id. A rule that the catalog does not have is described by its
id. -/
def ruleOf (catalog : Catalog) (id : String) : SarifRule :=
  match catalog.get? id with
  | some rule => ⟨id, rule.description, rule.severity.label⟩
  | none => ⟨id, id, "error"⟩

/-- The value unless it is absent or empty. -/
def nonempty? (s : Option String) : Option String := s.filter (· ≠ "")

/-- Where a diagnostic points to: an entity, and a region of the source if its line is known. -/
def locationJson (l : Location) (source : String) : Json :=
  let logical : Json := .obj [
    ("name", .str ((nonempty? l.argumentName <|> nonempty? l.fieldName).getD l.typeName)),
    ("fullyQualifiedName", .str l.path),
    ("kind", .str (if (nonempty? l.fieldName).isSome then "member" else "type"))]
  let region : List (String × Json) :=
    ("startLine", .int l.line) :: if l.column = 0 then [] else [("startColumn", .int l.column)]
  let physical : Json := .obj [
    ("artifactLocation", .obj [("uri", .str source)]),
    ("region", .obj region)]
  .obj (("logicalLocations", .arr [logical]) ::
    if l.line = 0 then [] else [("physicalLocation", physical)])

/-- The result of a diagnostic, whose rule has the place `index`. -/
def resultJson (index : Nat) (d : Diagnostic) (source : String) : Json :=
  .obj ([
    ("ruleId", .str d.rule),
    ("ruleIndex", .int index),
    ("level", .str d.severity.label),
    ("message", .obj [("text", .str d.message)]),
    ("locations", .arr [locationJson d.location source])] ++
    match d.fix with
    | some fix => [("properties", .obj [("suggestedFix", .str fix)])]
    | none => [])

/-- The log with one more diagnostic. -/
def add (catalog : Catalog) (source : String) (log : SarifLog) (d : Diagnostic) : SarifLog :=
  let rules :=
    if log.rules.any (·.id == d.rule) then log.rules else log.rules ++ [ruleOf catalog d.rule]
  let index := rules.findIdx (·.id == d.rule)
  ⟨rules, log.results ++ [(index, resultJson index d source)]⟩

/-- The log of some diagnostics. -/
def ofDiagnostics (catalog : Catalog) (source : String) (ds : List Diagnostic) : SarifLog :=
  ds.foldl (add catalog source) empty

/-- What a log tells about a rule, as a record. -/
def ruleJson (r : SarifRule) : Json :=
  .obj [
    ("id", .str r.id),
    ("shortDescription", .obj [("text", .str r.description)]),
    ("defaultConfiguration", .obj [("level", .str r.level)])]

/-- The log as a record. -/
def toJson (log : SarifLog) : Json :=
  let driver : Json := .obj [
    ("name", .str Program.name),
    ("version", .str Program.version),
    ("informationUri", .str Program.home),
    ("rules", .arr (log.rules.map ruleJson))]
  .obj [
    ("$schema", .str ("https://raw.githubusercontent.com/oasis-tcs/sarif-spec/master/" ++
      "Schemata/sarif-schema-2.1.0.json")),
    ("version", .str "2.1.0"),
    ("runs", .arr [.obj [
      ("tool", .obj [("driver", driver)]),
      ("results", .arr (log.results.map (·.2)))]])]

/-- The log as text. -/
def text (log : SarifLog) : String := log.toJson.indented ++ "\n"

end SarifLog

/-- The report as a log. -/
def Report.sarif (r : Report) (catalog : Catalog) : String :=
  (SarifLog.ofDiagnostics catalog r.source r.diagnostics).text

end SchemaLint

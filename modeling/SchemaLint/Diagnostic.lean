import SchemaLint.Json.Basic
import SchemaLint.Schema.Definition
import SchemaLint.Unicode.Basic
import SchemaLint.Unicode.Lower

/-!
# Diagnostics

A diagnostic tells one violation of style: the rule that found it, how severe it is, what is wrong and
where, and a replacement if the rule can name one.
-/

namespace SchemaLint

/-- How severe a violation is. -/
inductive Severity where
  | error | warning
  deriving DecidableEq, Repr

namespace Severity

/-- The word for a severity. -/
def label : Severity → String
  | error => "error"
  | warning => "warning"

/-- The severity that a text names: `error`, `warning` or `warn`, in any letter case and with blanks
around it. -/
def ofText? (s : String) : Option Severity :=
  let word := Unicode.lower (Unicode.trim s)
  if word = "error" then some error
  else if word = "warning" ∨ word = "warn" then some warning
  else none

end Severity

/-- The entity that a diagnostic is about and its position. Zero stands for an unknown line or
column. -/
structure Location where
  typeName : String
  fieldName : Option String
  argumentName : Option String
  line : Int
  column : Int
  deriving DecidableEq, Repr

namespace Location

/-- The names of the type, the field and the argument, joined by points. -/
def path (l : Location) : String :=
  match l.fieldName, l.argumentName with
  | none, _ => l.typeName
  | some f, none => s!"{l.typeName}.{f}"
  | some f, some a => s!"{l.typeName}.{f}.{a}"

/-- The names of the type and the field, joined by a point. -/
def text (l : Location) : String :=
  match l.fieldName with
  | none => l.typeName
  | some f => s!"{l.typeName}.{f}"

/-- The location of an entity. -/
def ofEntity : Entity → Location
  | .type t => ⟨t.name, none, none, t.position.line, t.position.column⟩
  | .field f => ⟨f.owner, some f.name, none, f.position.line, f.position.column⟩
  | .argument a => ⟨a.owner, some a.field, some a.name, a.position.line, a.position.column⟩

/-- The location of an enum value, which stands in for a field of its type. -/
def ofEnumValue (v : EnumValue) : Location :=
  ⟨v.owner, some v.name, none, v.position.line, v.position.column⟩

end Location

/-- A violation of style. -/
structure Diagnostic where
  rule : String
  severity : Severity
  message : String
  location : Location
  fix : Option String
  deriving DecidableEq, Repr

namespace Diagnostic

/-- The diagnostic is an error. -/
def isError (d : Diagnostic) : Bool := d.severity == .error

/-- The diagnostic with another severity. -/
def withSeverity (d : Diagnostic) (severity : Severity) : Diagnostic := { d with severity }

/-- The diagnostic as a line of text. -/
def text (d : Diagnostic) : String :=
  s!"{d.severity.label}: {d.message} ({d.location.text}) [{d.rule}]"

/-- A member of a record that is left out when it is absent. -/
private def optional (key : String) : Option String → List (String × Json)
  | some s => [(key, .str s)]
  | none => []

/-- The diagnostic as a record, in which what is absent is left out. -/
def toRecord (d : Diagnostic) : Json :=
  .obj ([("severity", .str d.severity.label), ("ruleId", .str d.rule),
      ("message", .str d.message), ("typeName", .str d.location.typeName)] ++
    optional "fieldName" d.location.fieldName ++
    optional "argumentName" d.location.argumentName ++
    optional "suggestedFix" d.fix)

end Diagnostic
end SchemaLint

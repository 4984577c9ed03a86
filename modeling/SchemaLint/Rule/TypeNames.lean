import SchemaLint.Rule.Basic
import SchemaLint.Word.Casing

/-!
# Rules about names of types

Type names are in PascalCase and singular, and do not tell their kind. Names of input types end with
an accepted suffix, and with `Filter` if the type is that of an argument called `filter`.
-/

namespace SchemaLint.Rule

/-- A replacement that says something new. -/
def replacement (name fix : String) : Option String :=
  if fix = "" ∨ fix = name then none else some fix

/-- Type names are in PascalCase. -/
def typeCasing : Rule :=
  .onTypes "TypeCasing" "Type names are PascalCase." .error false (fun _ => true) fun _ t =>
    if Word.isPascal t.name then .nothing
    else
      .one (.type t) s!"Type '{t.name}' should be PascalCase"
        (replacement t.name (Word.toPascal t.name))

/-- Type names, apart from the suffix that tells their role, are singular. -/
def typeSingular : Rule :=
  .onTypes "TypeSingular" "Type names are singular nouns." .warning true (· ≠ .enum)
    fun context t =>
      match (Word.split (Word.stripSuffix Word.roleSuffixes t.name)).getLast? with
      | none => .nothing
      | some last =>
        if context.judgement.isPlural last = some true then
          .one (.type t) s!"Type '{t.name}' should be singular ('{last}' looks plural)"
        else .nothing

/-- Type names do not end with a word for their kind. -/
def typeKindSuffix : Rule :=
  .onTypes "TypeKindSuffix" "Type names do not end with Enum, Type or Scalar." .error false
    (fun _ => true) fun _ t =>
      let tooLong (suffix : String) :=
        Word.endsWith t.name suffix && suffix.length < t.name.length
      match ["Enum", "Type", "Scalar"].find? tooLong with
      | none => .nothing
      | some suffix =>
        .one (.type t) s!"Type '{t.name}' should not end with '{suffix}'"
          (some (Word.dropEnding t.name suffix.length))

/-- Names of input types end with an accepted suffix. -/
def inputSuffix : Rule :=
  .onTypes "InputSuffix" "Input type names end with an accepted input suffix." .error false
    (· == .input) fun context t =>
      let suffixes := context.options.suffixes
      if suffixes.any (Word.endsWith t.name) then .nothing
      else do
        let first ← suffixes.head?
        let list := ", ".intercalate suffixes
        Findings.one (.type t) s!"Input type '{t.name}' should end with one of: {list}"
          (some (t.name ++ first))

/-- Names of input types of arguments called `filter` end with `Filter`. -/
def filterSuffix : Rule :=
  .onTypes "FilterSuffix" "Input types used as a 'filter' argument end with Filter." .error false
    (· == .input) fun context t =>
      if Word.endsWith t.name "Filter" then .nothing
      else
        let usages := (context.table.usagesOf t.name).filter (·.name == "filter")
        if usages.isEmpty then .nothing
        else do
          let first ← usages.head?
          Findings.one (.type t)
            (s!"Input type '{t.name}' is used as a 'filter' argument " ++
              s!"({first.owner}.{first.field}) and should end with 'Filter'")
            (some (Word.stripSuffix Word.roleSuffixes t.name ++ "Filter"))

end SchemaLint.Rule

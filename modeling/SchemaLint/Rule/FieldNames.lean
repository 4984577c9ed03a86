import SchemaLint.Rule.TypeNames

/-!
# Rules about names of fields

Names of fields and arguments are in camelCase. Lists have plural names and other fields singular
ones. A field does not repeat the name of its owner or of its type. Boolean fields follow the policy
of the options.
-/

namespace SchemaLint.Rule

/-- Names of fields and arguments are in camelCase. -/
def fieldCasing : Rule where
  id := "FieldCasing"
  description := "Field and argument names are camelCase."
  targets := [.field, .argument]
  severity := .error
  heuristic := false
  appliesTo _ e := !isReserved e.name
  check? _ e :=
    if Word.isCamel e.name then .nothing
    else
      let what := if e.kind = .argument then "Argument" else "Field"
      .one e s!"{what} '{e.name}' should be camelCase"
        (replacement e.name (Word.toCamel e.name))

/-- Lists have plural names, and other fields singular ones unless their type is a page of a list. -/
def fieldPlurality : Rule :=
  .onFields "FieldPlurality" "List fields have plural names; other fields singular ones." .warning
    true (fun _ f => f.type.name ≠ "Boolean" && !isReserved f.name) fun context f =>
      let plural := Word.isPluralName context.judgement.isPlural f.name
      if f.type.isList then
        if plural = some false then do
          let last ← (Word.split f.name).getLast?
          Findings.one (.field f) s!"List field '{f.name}' should have a plural name"
            (some (Word.dropEnding f.name last.length ++ Word.plural last))
        else .nothing
      else if plural = some true ∧
          !(["Connection", "Page"].any (Word.endsWith f.type.name)) then
        .one (.field f)
          s!"Field '{f.name}' returns a single '{f.type.text}' and should have a singular name"
      else .nothing

/-- The name without the part that repeats a type. -/
def withoutPart (name part : String) : Option String :=
  match Text.find? (Unicode.lower part).toList (Unicode.lower name).toList with
  | none => none
  | some start =>
    match name.toList.take start ++ name.toList.drop (start + part.length) with
    | [] => none
    | rest => some (String.ofList (Word.lowerFirst rest))

/-- A field does not repeat the name of its owner or of its type. -/
def fieldRedundantName : Rule :=
  .onFields "FieldRedundantName" "Field names do not repeat their owning or output type name."
    .warning true (fun _ _ => true) fun context f =>
      if context.options.allowed.contains f.name then .nothing
      else
        match context.judgement.repeats context.table f with
        | none => .nothing
        | some part =>
          .one (.field f) s!"Field '{f.name}' repeats the type name '{part}'"
            (withoutPart f.name part)

/-- The first word of a name if it is one of the prefixes and not the only word. -/
def leadingPrefix? (prefixes : List String) (name : String) : Option String :=
  match Word.split name with
  | first :: _ :: _ => if prefixes.contains first then some first else none
  | _ => none

/-- Names of Boolean fields start with an accepted word, or with none of these, as the options say.
The field `success` is exempt, since results of mutations need it. -/
def booleanFieldPrefix : Rule :=
  .onFields "BooleanFieldPrefix"
    "Boolean field names follow the configured is/has prefix policy." .warning false
    (fun context f =>
      context.options.policy ≠ .ignore && f.type.isPlain "Boolean" && f.name ≠ "success" &&
        !context.table.isRoot f.owner)
    fun context f =>
      let prefixes := context.options.prefixes
      match context.options.policy, leadingPrefix? prefixes f.name with
      | .require, none =>
        let list := ", ".intercalate prefixes
        .one (.field f) s!"Boolean field '{f.name}' should start with one of: {list}"
          (prefixes.head?.map (· ++ Word.capitalized f.name))
      | .forbid, some word =>
        .one (.field f) s!"Boolean field '{f.name}' should not start with '{word}'"
          (some (Word.uncapitalized (String.ofList (f.name.toList.drop word.length))))
      | _, _ => .nothing

end SchemaLint.Rule

import SchemaLint.Rule.Basic
import SchemaLint.Word.Casing

/-!
# Rules about mutations

A mutation is named by an allowed verb and its object, and returns an object that tells success and
errors. Mutations that create take a draft, and those that delete take an id.
-/

namespace SchemaLint.Rule

/-- Verbs that say the same as a verb of the convention. -/
def verbSynonyms : List (String × String) :=
  [("new", "create"), ("add", "create"), ("insert", "create"), ("make", "create"),
    ("edit", "update"), ("modify", "update"), ("change", "update"), ("remove", "delete"),
    ("destroy", "delete"), ("erase", "delete")]

/-- The allowed verb that says the same as another. -/
def allowedSynonym? (options : Options) (verb : String) : Option String :=
  ((verbSynonyms.find? (·.1 == Unicode.lower verb)).map (·.2)).filter options.verbs.contains

/-- A mutation is named by an allowed verb and its object. -/
def mutationNaming : Rule :=
  .onRootFields "MutationNaming" "Mutation fields are named <verb><Object> with an allowed verb."
    .mutation (fun _ => true) fun context f =>
      let (verb, object) := Word.verbAndObject f.name
      if context.options.verbs.contains verb && Word.startsUpper object then .nothing
      else
        let list := ", ".intercalate context.options.verbs.names
        .one (.field f)
          (s!"Mutation '{f.name}' should be named <verb><Object> " ++
            s!"with a verb from: {list}")
          (if Word.startsUpper object then
            (allowedSynonym? context.options verb).map (· ++ object)
          else none)

/-- The field is a non-null list of errors. -/
def isErrorList (table : Table) (f : Field) : Bool :=
  f.type.isList && !f.type.nullable &&
    (table.kindOf? f.type.name).any
      (fun k => k == .object || k == .interface || k == .union) &&
    Word.endsWith f.type.name "Error"

/-- What is wrong with the result of a mutation. -/
def resultProblems (table : Table) (f : Field) : List String :=
  let ref := f.type
  let nullability :=
    if ref.nullable then [s!"result type '{ref.text}' should be non-null"] else []
  let single := [s!"should return a single object type, not '{ref.text}'"]
  nullability ++
    match table.get? ref.name with
    | none => single
    | some result =>
      if ref.isList || result.kind ≠ .object then single
      else
        (if (result.field? "success").any (·.type.isRequired "Boolean") then []
          else [s!"'{result.name}' should have a 'success: Boolean!' field"]) ++
        (if (result.field? "errors").any (isErrorList table) then []
          else [s!"'{result.name}' should have an 'errors: [Error!]!' field"])

/-- A mutation returns an object that tells success and errors. -/
def mutationResultShape : Rule :=
  .onRootFields "MutationResultShape"
    "Mutations return a non-null object with success and errors fields." .mutation
    (fun _ => true) fun context f =>
      match resultProblems context.table f with
      | [] => .nothing
      | problems =>
        let list := "; ".intercalate problems
        .one (.field f) s!"Mutation '{f.name}' result: {list}"

/-- The field is named by the verb and an object. -/
def hasVerb (verb : String) (f : Field) : Bool :=
  let (v, object) := Word.verbAndObject f.name
  v == verb && Word.startsUpper object

/-- A mutation that creates takes a draft and nothing else. -/
def createMutationShape : Rule :=
  .onRootFields "CreateMutationShape"
    "create<Entity> takes exactly one argument 'draft: <Entity>Draft!'." .mutation
    (hasVerb "create") fun _ f =>
      let draft := (Word.verbAndObject f.name).2 ++ "Draft"
      let isDraft (a : Argument) := a.name == "draft" && a.type.isRequired draft
      if f.arguments.length = 1 then do
        let sole ← f.arguments.head?
        if isDraft sole then Findings.nothing else complain f draft
      else complain f draft
where
  /-- The finding that the arguments are not the draft. -/
  complain (f : Field) (draft : String) : Findings :=
    .one (.field f) s!"Mutation '{f.name}' should take exactly one argument 'draft: {draft}!'"
      (some s!"{f.name}(draft: {draft}!)")

/-- A mutation that deletes takes an id. -/
def deleteMutationShape : Rule :=
  .onRootFields "DeleteMutationShape" "delete<Entity> takes an 'id: ID!' argument." .mutation
    (hasVerb "delete") fun _ f =>
      if (f.argument? "id").any (·.type.isRequired "ID") then .nothing
      else .one (.field f) s!"Mutation '{f.name}' should take an 'id: ID!' argument"

end SchemaLint.Rule

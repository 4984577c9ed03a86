import SchemaLint.Rule.Basic

/-!
# Rules about queries

A query of several things returns a list without gaps, and a query of one thing by its id may come
back empty.
-/

namespace SchemaLint.Rule

/-- Lists that queries return are non-null and of non-null things. -/
def collectionQueryShape : Rule :=
  .onRootFields "CollectionQueryShape" "Root query fields returning lists use [T!]!." .query
    (·.type.isList) fun _ f =>
      let ref := f.type
      if !ref.nullable && ref.elementNullable == some false then .nothing
      else
        let expected := s!"[{ref.name}!]!"
        .one (.field f)
          (s!"Query field '{f.name}' returns '{ref.text}'; " ++
            s!"collections should be '{expected}'")
          (some expected)

/-- The only argument of the field is an id. -/
def isLookup (f : Field) : Bool :=
  !f.type.isList &&
    match f.arguments with
    | [a] => a.name == "id" && a.type.isRequired "ID"
    | _ => false

/-- Lookups by id return a nullable type. -/
def byIdQueryShape : Rule :=
  .onRootFields "ByIdQueryShape" "Root query lookups by 'id: ID!' return a nullable type." .query
    isLookup fun _ f =>
      if f.type.nullable then .nothing
      else
        .one (.field f)
          (s!"Query field '{f.name}' looks up by id and should return a nullable " ++
            s!"'{f.type.name}', not '{f.type.text}'")
          (some f.type.name)

end SchemaLint.Rule

import SchemaLint.Schema.Table
import SchemaLint.Schema.Violation

/-!
# Tables from documents

A document without violations has a table. Each type is made of its definition and extensions in the
order of the document; it stands where it is defined or, if it is only extended, where it is extended
first.

Without any schema definition or extension, object types called `Query`, `Mutation` and
`Subscription` are the root types.
-/

namespace SchemaLint

open Sdl (Ident ArgumentNode FieldNode RootNode Operation)

/-- The argument of a field from its node. -/
def Argument.ofNode (owner field : String) (a : ArgumentNode) : Argument :=
  ⟨a.name.text, a.type.toRef, owner, field, a.name.position⟩

/-- The field of a type from its node. -/
def Field.ofNode (owner : String) (f : FieldNode) : Field :=
  ⟨f.name.text, owner, f.type.toRef, f.arguments.map (.ofNode owner f.name.text),
    f.name.position⟩

/-- The type of a name from its nodes, of which there is at least one. -/
def TypeDef.ofNodes (name : String) (first : TypeNode) (rest : List TypeNode) : TypeDef :=
  let nodes := first :: rest
  let bodies := nodes.map (·.body)
  { name
    kind := first.body.kind
    fields := (bodies.flatMap (·.fields)).map (.ofNode name)
    values := (bodies.flatMap (·.values)).map fun v => ⟨v.text, name, v.position⟩
    members := (bodies.flatMap (·.members)).map (·.text)
    interfaces := (bodies.flatMap (·.interfaces)).map (·.text)
    position := ((nodes.find? (!·.extends)).getD first).name.position }

/-- The conventional names of root types. -/
def conventionalRoots : List (Operation × String) :=
  [(.query, "Query"), (.mutation, "Mutation"), (.subscription, "Subscription")]

/-- The roots with another type for an operation: in place of the old one if there is one, else at the
end. -/
def assignRoot (operation : Operation) (name : String) :
    List (Operation × String) → List (Operation × String)
  | [] => [(operation, name)]
  | (o, n) :: rest =>
    if o = operation then (o, name) :: rest else (o, n) :: assignRoot operation name rest

namespace Sdl.Document

/-- The types of a document. -/
def types (d : Document) : List TypeDef :=
  d.typeNames.filterMap fun name =>
    match d.nodesOf name with
    | [] => none
    | first :: rest => some (.ofNodes name first rest)

/-- The root types of a document. -/
def roots (d : Document) : List (Operation × String) :=
  if d.schemaNodes.isEmpty then
    conventionalRoots.filter fun r =>
      ((d.types.find? (·.name == r.2)).map (·.kind)) == some .object
  else
    d.schemaNodes.flatten.foldl (fun roots r => assignRoot r.operation r.type.text roots) []

/-- The source that a table of the document names, unless another is given. -/
def sourceName (d : Document) (given : Option String) : String :=
  (given <|> d.origin.map (·.source)).getD "<schema>"

end Sdl.Document

/-- The table of a document, or the problem of its first violation. -/
def Table.build (d : Sdl.Document) (source : Option String) : Except Problem Table :=
  match Violation.all d with
  | v :: _ => .error (v.toProblem d (d.sourceName source))
  | [] => .ok (.ofTypes d.types d.roots (d.sourceName source))

end SchemaLint

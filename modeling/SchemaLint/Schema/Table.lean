import SchemaLint.Schema.Definition
import SchemaLint.Value.Text

/-!
# Schema tables

All types of a schema by name, the root types of its operations, and two indexes that rules look
things up in: the arguments that refer to a type, and the types that mutations return.
-/

namespace SchemaLint

open Sdl (Operation)

/-- Arguments by the name of the type that they refer to. -/
abbrev UsageIndex := List (String × List Argument)

/-- The index with one more argument, behind the others of its type. -/
def UsageIndex.add (a : Argument) : UsageIndex → UsageIndex
  | [] => [(a.type.name, [a])]
  | (name, usages) :: rest =>
    if name = a.type.name then (name, usages ++ [a]) :: rest
    else (name, usages) :: UsageIndex.add a rest

/-- The index of all arguments of the types, in order. -/
def UsageIndex.ofTypes (types : List TypeDef) : UsageIndex :=
  types.foldl (fun index t =>
    t.fields.foldl (fun index f => f.arguments.foldl (fun index a => index.add a) index) index) []

/-- A schema. The operations with a root type are in the order in which they got it. -/
structure Table where
  types : List TypeDef
  roots : List (Operation × String)
  source : String
  usages : UsageIndex
  mutationResults : List String
  deriving DecidableEq, Repr

namespace Table

/-- The type of a name. -/
def get? (table : Table) (name : String) : Option TypeDef :=
  table.types.find? (·.name == name)

/-- The table declares a type of the name. -/
def declares (table : Table) (name : String) : Bool := (table.get? name).isSome

/-- The kind of a type, built-in scalars included. -/
def kindOf? (table : Table) (name : String) : Option TypeKind :=
  match table.get? name with
  | some t => some t.kind
  | none => if builtinScalars.contains name then some .scalar else none

/-- The name is that of a scalar or enum type. -/
def isLeaf (table : Table) (name : String) : Bool :=
  (table.kindOf? name).any TypeKind.isLeaf

/-- The name of the root type of an operation. -/
def rootName? (table : Table) (operation : Operation) : Option String :=
  (table.roots.find? (·.1 == operation)).map (·.2)

/-- The root type of an operation. -/
def root? (table : Table) (operation : Operation) : Option TypeDef :=
  (table.rootName? operation).bind table.get?

/-- The type is the root type of some operation. -/
def isRoot (table : Table) (name : String) : Bool :=
  table.roots.any (·.2 == name)

/-- The first operation whose root type owns the field. -/
def operationOf? (table : Table) (f : Field) : Option Operation :=
  (table.roots.find? (·.2 == f.owner)).map (·.1)

/-- All arguments that refer to a type. -/
def usagesOf (table : Table) (name : String) : List Argument :=
  ((table.usages.find? (·.1 == name)).map (·.2)).getD []

/-- The type that a field belongs to. -/
def ownerOf? (table : Table) (f : Field) : Option TypeDef := table.get? f.owner

/-- The type that the field of an argument belongs to. -/
def argumentOwner? (table : Table) (a : Argument) : Option TypeDef := table.get? a.owner

/-- The field that an argument belongs to. -/
def fieldOf? (table : Table) (a : Argument) : Option Field :=
  (table.argumentOwner? a).bind (·.field? a.field)

/-- All entities: every type, then its fields, each followed by its arguments. -/
def entities (table : Table) : List Entity := table.types.flatMap TypeDef.entities

/-- A short text about a table. -/
def text (table : Table) : String :=
  let roots := table.roots.map fun r => (Value.str r.1.text, Value.str r.2)
  s!"SymbolTable({table.types.length} types, roots={(Value.map roots).shown})"

/-- The table of some types and root types, with its indexes. -/
def ofTypes (types : List TypeDef) (roots : List (Operation × String)) (source : String) : Table :=
  let bare : Table := ⟨types, roots, source, .ofTypes types, []⟩
  let results := ((bare.root? .mutation).map (·.fields.map (·.type.name))).getD []
  { bare with mutationResults := results.eraseDups }

end Table
end SchemaLint

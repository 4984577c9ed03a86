import SchemaLint.Schema.Kind
import SchemaLint.Schema.TypeRef

/-!
# Definitions of a schema

The types of a schema with their extensions merged in. What belongs to a type names its owner, so
that it can be found again from any of its parts.
-/

namespace SchemaLint

open Sdl (Position)

/-- An argument of a field. -/
structure Argument where
  name : String
  type : TypeRef
  owner : String
  field : String
  position : Position
  deriving DecidableEq, Repr

/-- A field of an object, interface or input type. -/
structure Field where
  name : String
  owner : String
  type : TypeRef
  arguments : List Argument
  position : Position
  deriving DecidableEq, Repr

/-- The argument of a name. -/
def Field.argument? (f : Field) (name : String) : Option Argument :=
  f.arguments.find? (·.name == name)

/-- A value of an enum type. -/
structure EnumValue where
  name : String
  owner : String
  position : Position
  deriving DecidableEq, Repr

/-- A type with everything that its definition and extensions add to it, in the order of the
document. -/
structure TypeDef where
  name : String
  kind : TypeKind
  fields : List Field
  values : List EnumValue
  members : List String
  interfaces : List String
  position : Position
  deriving DecidableEq, Repr

/-- The field of a name. -/
def TypeDef.field? (t : TypeDef) (name : String) : Option Field :=
  t.fields.find? (·.name == name)

/-- What a rule can be asked about. -/
inductive Entity where
  | type (t : TypeDef)
  | field (f : Field)
  | argument (a : Argument)
  deriving DecidableEq, Repr

/-- The kinds of entities. -/
inductive EntityKind where
  | type | field | argument
  deriving DecidableEq, Repr

/-- The word for a kind of entity. -/
def EntityKind.text : EntityKind → String
  | type => "type"
  | field => "field"
  | argument => "argument"

namespace Entity

/-- The kind of an entity. -/
def kind : Entity → EntityKind
  | type _ => .type
  | field _ => .field
  | argument _ => .argument

/-- The name of an entity. -/
def name : Entity → String
  | type t => t.name
  | field f => f.name
  | argument a => a.name

end Entity

/-- A type, then its fields, each followed by its arguments. -/
def TypeDef.entities (t : TypeDef) : List Entity :=
  .type t :: t.fields.flatMap fun f => .field f :: f.arguments.map .argument

end SchemaLint

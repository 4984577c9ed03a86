import SchemaLint.Sdl.Token

/-!
# Documents of the schema language

The syntax tree keeps what a linter of names and shapes looks at: names, types and their positions.
Descriptions, default values and applied directives are checked by the grammar and left out.
-/

namespace SchemaLint.Sdl

/-- A name and its position. -/
structure Ident where
  text : String
  position : Position
  deriving DecidableEq, Repr

/-- A type as it is written: a name, or a list of a type, each with an exclamation mark (`required`)
or without. A list has the position of its bracket. -/
inductive TypeExpr where
  | named (name : Ident) (required : Bool)
  | list (bracket : Position) (item : TypeExpr) (required : Bool)
  deriving DecidableEq, Repr

namespace TypeExpr

/-- The position of the first token of a type. -/
def position : TypeExpr → Position
  | named name _ => name.position
  | list bracket _ _ => bracket

/-- The type carries an exclamation mark. -/
def required : TypeExpr → Bool
  | named _ required => required
  | list _ _ required => required

/-- The type with an exclamation mark. -/
def require : TypeExpr → TypeExpr
  | named name _ => named name true
  | list bracket item _ => list bracket item true

end TypeExpr

/-- An argument of a field or a directive. -/
structure ArgumentNode where
  name : Ident
  type : TypeExpr
  deriving DecidableEq, Repr

/-- A field of an object, interface or input type; the last has no arguments. -/
structure FieldNode where
  name : Ident
  arguments : List ArgumentNode
  type : TypeExpr
  deriving DecidableEq, Repr

/-- What a type is made of. -/
inductive TypeBody where
  | scalar
  | object (interfaces : List Ident) (fields : List FieldNode)
  | interface (interfaces : List Ident) (fields : List FieldNode)
  | union (members : List Ident)
  | enum (values : List Ident)
  | input (fields : List FieldNode)
  deriving DecidableEq, Repr

/-- The three operations that a schema offers. -/
inductive Operation where
  | query | mutation | subscription
  deriving DecidableEq, Repr

/-- The keyword of an operation. -/
def Operation.text : Operation → String
  | .query => "query"
  | .mutation => "mutation"
  | .subscription => "subscription"

/-- The operation of a keyword. -/
def Operation.ofText? (s : String) : Option Operation :=
  [Operation.query, .mutation, .subscription].find? (·.text == s)

/-- The root type that a schema gives to an operation. -/
structure RootNode where
  operation : Operation
  type : Ident
  deriving DecidableEq, Repr

/-- A definition at the top of a document. `extends` tells an extension from a first definition. -/
inductive Definition where
  | schema («extends» : Bool) (position : Position) (roots : List RootNode)
  | type («extends» : Bool) (name : Ident) (body : TypeBody)
  | directive («extends» : Bool) (name : Ident) (arguments : List ArgumentNode)
  | operation (position : Position)
  | fragment (position : Position)
  deriving DecidableEq, Repr

namespace Definition

/-- The position of a definition: that of its name, or that of its first token if it has none. -/
def position : Definition → Position
  | schema _ p _ => p
  | type _ name _ => name.position
  | directive _ name _ => name.position
  | operation p => p
  | fragment p => p

/-- Operations and fragments are run against a schema and are no part of one. -/
def isExecutable : Definition → Bool
  | operation _ | fragment _ => true
  | _ => false

end Definition

/-- Where a document was read from: the name of its source and all of its tokens. -/
structure Origin where
  source : String
  tokens : List Token
  deriving DecidableEq, Repr

/-- The definitions of a text in order, with their origin if positions were kept. -/
structure Document where
  definitions : List Definition
  origin : Option Origin
  deriving DecidableEq, Repr

/-! ## Documents without positions -/

/-- The name without its position. -/
def Ident.unplaced (name : Ident) : Ident := ⟨name.text, .unknown⟩

/-- The type without its positions. -/
def TypeExpr.unplaced : TypeExpr → TypeExpr
  | named name required => named name.unplaced required
  | list _ item required => list .unknown item.unplaced required

/-- The argument without its positions. -/
def ArgumentNode.unplaced (a : ArgumentNode) : ArgumentNode := ⟨a.name.unplaced, a.type.unplaced⟩

/-- The field without its positions. -/
def FieldNode.unplaced (f : FieldNode) : FieldNode :=
  ⟨f.name.unplaced, f.arguments.map (·.unplaced), f.type.unplaced⟩

/-- The body without its positions. -/
def TypeBody.unplaced : TypeBody → TypeBody
  | scalar => scalar
  | object interfaces fields => object (interfaces.map (·.unplaced)) (fields.map (·.unplaced))
  | interface interfaces fields =>
    interface (interfaces.map (·.unplaced)) (fields.map (·.unplaced))
  | union members => union (members.map (·.unplaced))
  | enum values => enum (values.map (·.unplaced))
  | input fields => input (fields.map (·.unplaced))

/-- The definition without its positions. -/
def Definition.unplaced : Definition → Definition
  | schema e _ roots => schema e .unknown (roots.map fun r => ⟨r.operation, r.type.unplaced⟩)
  | type e name body => type e name.unplaced body.unplaced
  | directive e name arguments => directive e name.unplaced (arguments.map (·.unplaced))
  | operation _ => operation .unknown
  | fragment _ => fragment .unknown

/-- The document as it is read when positions are not kept: all positions are unknown and nothing is
known of its origin. -/
def Document.unplaced (d : Document) : Document := ⟨d.definitions.map (·.unplaced), none⟩

end SchemaLint.Sdl

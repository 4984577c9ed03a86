/-!
# Kinds of types
-/

namespace SchemaLint

/-- The kinds of named types. -/
inductive TypeKind where
  | object | input | enum | scalar | union | interface
  deriving DecidableEq, Repr

namespace TypeKind

/-- The word for a kind. -/
def text : TypeKind → String
  | object => "object"
  | input => "input"
  | enum => "enum"
  | scalar => "scalar"
  | union => "union"
  | interface => "interface"

/-- Types of this kind have no parts of a type of their own. -/
def isLeaf : TypeKind → Bool
  | scalar | enum => true
  | object | input | union | interface => false

end TypeKind

/-- The scalar types that every schema has without declaring them. -/
def builtinScalars : List String := ["String", "Int", "Float", "Boolean", "ID"]

end SchemaLint

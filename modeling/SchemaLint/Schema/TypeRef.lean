import SchemaLint.Sdl.Document

/-!
# Type references

A reference to a named type under any number of list and non-null wrappers, reduced to what the rules
ask about.
-/

namespace SchemaLint

/-- A reference to a type. `name` is the named type at the core; `nullable` speaks of the outermost
wrapper, `elementNullable` of the core of a list. -/
structure TypeRef where
  name : String
  nullable : Bool
  depth : Nat
  elementNullable : Option Bool
  text : String
  deriving DecidableEq, Repr

namespace TypeRef

/-- The reference is to a list. -/
def isList (r : TypeRef) : Bool := 0 < r.depth

/-- The reference is to the named type, not to a list of it, and it is non-null. -/
def isRequired (r : TypeRef) (name : String) : Bool :=
  !r.isList && r.name == name && !r.nullable

/-- The reference is to the named type and not to a list of it. -/
def isPlain (r : TypeRef) (name : String) : Bool :=
  !r.isList && r.name == name

end TypeRef

namespace Sdl.TypeExpr

/-- The named type at the core of a type, with its mark. -/
def core : TypeExpr → Ident × Bool
  | named name required => (name, required)
  | list _ item _ => item.core

/-- The type as it is written. -/
def text : TypeExpr → String
  | named name required => name.text ++ if required then "!" else ""
  | list _ item required => "[" ++ item.text ++ if required then "]!" else "]"

/-- Takes the lists off a type, of which `depth` have been taken off before: the named type that is
left, whether it is nullable, and how many lists there were. -/
def unwrap (depth : Nat) : TypeExpr → Ident × Bool × Nat
  | named name required => (name, !required, depth)
  | list _ item _ => item.unwrap (depth + 1)

/-- The reference that a type stands for. -/
def toRef (t : TypeExpr) : TypeRef :=
  let (name, nullable, depth) := t.unwrap 0
  { name := name.text, nullable := !t.required, depth,
    elementNullable := if depth = 0 then none else some nullable, text := t.text }

end Sdl.TypeExpr
end SchemaLint

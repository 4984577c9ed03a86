import SchemaLint.Problem
import SchemaLint.Schema.Definition
import SchemaLint.Text.Similar

/-!
# Structural violations

The definitions of a document make a schema if types are defined once, all definitions and extensions
of a type are of one kind, members of a type and arguments of a field have different names, and every
reference is to a declared type or a built-in scalar.

This module lists all violations of a document, in the order in which they are told: definitions that
clash with earlier ones come first, then the parts of each type, then the arguments of directives,
then the root types.
-/

namespace SchemaLint

open Sdl (Ident Position TypeBody Definition FieldNode ArgumentNode RootNode)

/-- A violation of the structure of a schema. -/
inductive Violation where
  | redefinedType (name first : Ident)
  | conflictingKind (name : Ident) (first second : TypeKind)
  | redefinedMember (kind : MemberKind) (owner : String) (name : Ident)
  | undefinedType (name referencedFrom : String) (position : Position)
  deriving DecidableEq, Repr

/-- A definition or extension of a type. -/
structure TypeNode where
  «extends» : Bool
  name : Ident
  body : TypeBody
  deriving DecidableEq, Repr

/-- What a type is made of, piece by piece. -/
inductive TypePart where
  | interface (name : Ident)
  | field (f : FieldNode)
  | member (name : Ident)
  | value (name : Ident)
  deriving DecidableEq, Repr

namespace Sdl.TypeBody

/-- The kind of a type by its body. -/
def kind : TypeBody → TypeKind
  | scalar => .scalar
  | object .. => .object
  | interface .. => .interface
  | union _ => .union
  | enum _ => .enum
  | input _ => .input

/-- The fields of a body. -/
def fields : TypeBody → List FieldNode
  | object _ fields | interface _ fields | input fields => fields
  | _ => []

/-- The interfaces of a body. -/
def interfaces : TypeBody → List Ident
  | object interfaces _ | interface interfaces _ => interfaces
  | _ => []

/-- The members of a union. -/
def members : TypeBody → List Ident
  | union members => members
  | _ => []

/-- The values of an enum. -/
def values : TypeBody → List Ident
  | enum values => values
  | _ => []

/-- The parts of a body in order. -/
def parts (body : TypeBody) : List TypePart :=
  body.interfaces.map .interface ++ body.fields.map .field ++ body.members.map .member ++
    body.values.map .value

end Sdl.TypeBody

namespace Sdl.Document

/-- The definitions and extensions of types, in order. -/
def typeNodes (d : Document) : List TypeNode :=
  d.definitions.filterMap fun
    | .type e name body => some ⟨e, name, body⟩
    | _ => none

/-- The names of all types that are defined or extended, in the order in which they appear. -/
def typeNames (d : Document) : List String :=
  (d.typeNodes.map (·.name.text)).eraseDups

/-- The definitions and extensions of one type, in order. -/
def nodesOf (d : Document) (name : String) : List TypeNode :=
  d.typeNodes.filter (·.name.text == name)

/-- The directives that are defined, with their arguments. -/
def directives (d : Document) : List (Ident × List ArgumentNode) :=
  d.definitions.filterMap fun
    | .directive false name arguments => some (name, arguments)
    | _ => none

/-- The root types of each schema definition or extension, in order. -/
def schemaNodes (d : Document) : List (List RootNode) :=
  d.definitions.filterMap fun
    | .schema _ _ roots => some roots
    | _ => none

end Sdl.Document

namespace Violation

/-- What is wrong with a type node behind the nodes `earlier`. A second definition counts before a
kind that differs from that of the first node. -/
def ofNode (earlier : List TypeNode) (node : TypeNode) : List Violation :=
  let same := earlier.filter (·.name.text == node.name.text)
  match (if node.extends then none else same.find? (!·.extends)), same.head? with
  | some first, _ => [.redefinedType node.name first.name]
  | none, some first =>
    if first.body.kind = node.body.kind then []
    else [.conflictingKind node.name first.body.kind node.body.kind]
  | none, none => []

/-- The clashes of type nodes with earlier ones. -/
def ofNodes (earlier : List TypeNode) : List TypeNode → List Violation
  | [] => []
  | node :: rest => ofNode earlier node ++ ofNodes (earlier ++ [node]) rest

section References
variable (known : String → Bool)

/-- A reference to a type that is not known. -/
def ofReference (name referencedFrom : String) (position : Position) : List Violation :=
  if known name then [] else [.undefinedType name referencedFrom position]

/-- What is wrong with the arguments of a field, of which those named in `seen` came before. -/
def ofArguments (owner field : String) : List String → List ArgumentNode → List Violation
  | _, [] => []
  | seen, a :: rest =>
    (if seen.contains a.name.text then [.redefinedMember .argument s!"{owner}.{field}" a.name]
      else []) ++
      ofReference known a.type.core.1.text s!"{owner}.{field}({a.name.text})" a.type.position ++
      ofArguments owner field (a.name.text :: seen) rest

/-- What is wrong with a field, apart from its name. -/
def ofField (owner : String) (f : FieldNode) : List Violation :=
  ofReference known f.type.core.1.text s!"{owner}.{f.name.text}" f.type.position ++
    ofArguments known owner f.name.text [] f.arguments

/-- What is wrong with the parts of a type, of which those named in `seen` came before. -/
def ofParts (owner : String) : List String → List TypePart → List Violation
  | _, [] => []
  | seen, .interface i :: rest =>
    ofReference known i.text owner i.position ++ ofParts owner seen rest
  | seen, .member m :: rest =>
    ofReference known m.text owner m.position ++ ofParts owner seen rest
  | seen, .field f :: rest =>
    (if seen.contains f.name.text then [.redefinedMember .field owner f.name] else []) ++
      ofField known owner f ++ ofParts owner (f.name.text :: seen) rest
  | seen, .value v :: rest =>
    (if seen.contains v.text then [.redefinedMember .enumValue owner v] else []) ++
      ofParts owner (v.text :: seen) rest

/-- What is wrong with the arguments of a directive. -/
def ofDirective (directive : Ident × List ArgumentNode) : List Violation :=
  directive.2.flatMap fun a =>
    ofReference known a.type.core.1.text s!"@{directive.1.text}" a.name.position

/-- What is wrong with root types. -/
def ofRoots (roots : List RootNode) : List Violation :=
  roots.flatMap fun r => ofReference known r.type.text "schema" r.type.position

end References

/-- The name is one of the declared types or that of a built-in scalar. -/
def isKnown (declared : List String) (name : String) : Bool :=
  declared.contains name || builtinScalars.contains name

/-- The parts of a type over all its nodes. -/
def partsOf (d : Sdl.Document) (name : String) : List TypePart :=
  (d.nodesOf name).flatMap (·.body.parts)

/-- All violations of a document, in the order in which they are told. -/
def all (d : Sdl.Document) : List Violation :=
  let known := isKnown d.typeNames
  ofNodes [] d.typeNodes ++
    d.typeNames.flatMap (fun name => ofParts known name [] (partsOf d name)) ++
    d.directives.flatMap (ofDirective known) ++
    d.schemaNodes.flatMap (ofRoots known)

/-- The names that a reference may mean, in alphabetical order. -/
def candidates (d : Sdl.Document) : List String :=
  ((d.typeNames ++ builtinScalars).eraseDups).mergeSort (· ≤ ·)

/-- A violation as a problem of the document, which was read from `source`. -/
def toProblem (d : Sdl.Document) (source : String) : Violation → Problem
  | redefinedType name first =>
    .redefinedType name.text (.ofPosition source name.position)
      (some (.ofPosition source first.position))
  | conflictingKind name first second =>
    .of (.conflictingKind name.text first second) (.ofPosition source name.position)
  | redefinedMember kind owner name =>
    .of (.redefinedMember kind.text owner name.text) (.ofPosition source name.position)
  | undefinedType name referencedFrom position =>
    .undefinedType name referencedFrom (.ofPosition source position)
      (Text.Similar.suggest name (candidates d))

end Violation
end SchemaLint

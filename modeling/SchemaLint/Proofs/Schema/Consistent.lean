import Mathlib
import SchemaLint.Proofs.Distinct
import SchemaLint.Schema.Build

/-!
# Consistent documents

When the definitions of a document make a schema, and what is wrong with it when they do not, said
of its definitions alone. `Consistent` collects the conditions and `Violates` the ways to break
them; no document does both.
-/

namespace SchemaLint

open Sdl (ArgumentNode Definition Document FieldNode Ident RootNode TypeBody)

namespace Sdl.Document

/-! ## Parts of a document -/

/-- The document defines or extends the type `name` by `body`. -/
def HasBody (d : Document) (name : Ident) (body : TypeBody) : Prop :=
  ∃ e, .type e name body ∈ d.definitions

/-- The document defines or extends a type of the name. -/
def Declares (d : Document) (name : String) : Prop :=
  ∃ i body, d.HasBody i body ∧ i.text = name

/-- The name of the type that is defined, and not only extended. -/
def definedName? : Definition → Option String
  | .type false i _ => some i.text
  | _ => none

/-- The names of the types that are defined, and not only extended, in order. -/
def definedNames (d : Document) : List String := d.definitions.filterMap definedName?

/-- The bodies of the definitions and extensions of a type, in order. -/
def bodiesOf (d : Document) (name : String) : List TypeBody :=
  d.definitions.filterMap fun
    | .type _ i body => if i.text = name then some body else none
    | _ => none

/-- The fields of a type in all its definitions and extensions, in order. -/
def fieldsOf (d : Document) (name : String) : List FieldNode := (d.bodiesOf name).flatMap (·.fields)

/-- The values of an enum in all its definitions and extensions, in order. -/
def valuesOf (d : Document) (name : String) : List Ident := (d.bodiesOf name).flatMap (·.values)

/-- The document refers to a type: by which name, from what and at which position. -/
inductive Refers (d : Document) : String → String → Position → Prop where
  | fieldType {i body f} :
    d.HasBody i body → f ∈ body.fields →
    Refers d f.type.core.1.text s!"{i.text}.{f.name.text}" f.type.position
  | argumentType {i body f a} :
    d.HasBody i body → f ∈ body.fields → a ∈ f.arguments →
    Refers d a.type.core.1.text s!"{i.text}.{f.name.text}({a.name.text})" a.type.position
  | member {i body m} :
    d.HasBody i body → m ∈ body.members →
    Refers d m.text i.text m.position
  | interface {i body m} :
    d.HasBody i body → m ∈ body.interfaces →
    Refers d m.text i.text m.position
  | directiveArgument {i arguments a} :
    .directive false i arguments ∈ d.definitions → a ∈ arguments →
    Refers d a.type.core.1.text s!"@{i.text}" a.name.position
  | root {e p roots r} :
    .schema e p roots ∈ d.definitions → r ∈ roots →
    Refers d r.type.text "schema" r.type.position

/-! ## Consistency -/

/-- The definitions of the document make a schema. -/
structure Consistent (d : Document) : Prop where
  definedOnce : d.definedNames.Nodup
  oneKind : ∀ {i j b c}, d.HasBody i b → d.HasBody j c → i.text = j.text → b.kind = c.kind
  fieldsDistinct : ∀ name, ((d.fieldsOf name).map (·.name.text)).Nodup
  valuesDistinct : ∀ name, ((d.valuesOf name).map (·.text)).Nodup
  argumentsDistinct : ∀ {i body f}, d.HasBody i body → f ∈ body.fields →
    (f.arguments.map (·.name.text)).Nodup
  resolved : ∀ {name referencedFrom position}, d.Refers name referencedFrom position →
    d.Declares name ∨ name ∈ builtinScalars

/-- What is wrong with the document, which was read from `source`, and where. -/
inductive Violates (d : Document) (source : String) : Cause → Span → Prop where
  | redefinedType {i j b c} :
    [.type false i b, .type false j c].Sublist d.definitions → i.text = j.text →
    Violates d source (.redefinedType j.text) (.ofPosition source j.position)
  | conflictingKind {e e' i j b c} :
    [.type e i b, .type e' j c].Sublist d.definitions → i.text = j.text → b.kind ≠ c.kind →
    Violates d source (.conflictingKind j.text b.kind c.kind) (.ofPosition source j.position)
  | redefinedField {name f g} :
    [f, g].Sublist (d.fieldsOf name) → f.name.text = g.name.text →
    Violates d source (.redefinedMember "field" name g.name.text)
      (.ofPosition source g.name.position)
  | redefinedValue {name v w} :
    [v, w].Sublist (d.valuesOf name) → v.text = w.text →
    Violates d source (.redefinedMember "enum value" name w.text) (.ofPosition source w.position)
  | redefinedArgument {i body f a b} :
    d.HasBody i body → f ∈ body.fields → [a, b].Sublist f.arguments → a.name.text = b.name.text →
    Violates d source (.redefinedMember "argument" s!"{i.text}.{f.name.text}" b.name.text)
      (.ofPosition source b.name.position)
  | undefinedType {name referencedFrom position} :
    d.Refers name referencedFrom position → ¬d.Declares name → name ∉ builtinScalars →
    Violates d source (.undefinedType name referencedFrom) (.ofPosition source position)

/-- A consistent document violates nothing. -/
lemma Consistent.not_violates {d : Document} {source : String} {cause : Cause} {span : Span}
    (consistent : d.Consistent) : ¬d.Violates source cause span := by
  intro violates
  cases violates with
  | @redefinedType i j b c sub eq =>
    have names : [i.text, j.text].Sublist d.definedNames := sub.filterMap definedName?
    exact List.nodup_iff_sublist.1 consistent.definedOnce j.text (eq ▸ names)
  | @conflictingKind e e' i j b c sub eq ne =>
    have first : d.HasBody i b := ⟨e, sub.subset (by simp)⟩
    have second : d.HasBody j c := ⟨e', sub.subset (by simp)⟩
    exact ne (consistent.oneKind first second eq)
  | redefinedField sub eq => exact nodup_map_iff.1 (consistent.fieldsDistinct _) _ _ sub eq
  | redefinedValue sub eq => exact nodup_map_iff.1 (consistent.valuesDistinct _) _ _ sub eq
  | redefinedArgument has mem sub eq =>
    exact nodup_map_iff.1 (consistent.argumentsDistinct has mem) _ _ sub eq
  | undefinedType refers undeclared notBuiltin =>
    exact (consistent.resolved refers).elim undeclared notBuiltin

end Sdl.Document

/-! ## Bodies -/

namespace Sdl.TypeBody

variable {body : TypeBody}

/-- The fields of a body are among its parts. -/
@[simp] lemma field_mem_parts {f : FieldNode} : .field f ∈ body.parts ↔ f ∈ body.fields := by
  simp [parts]

/-- The interfaces of a body are among its parts. -/
@[simp] lemma interface_mem_parts {i : Ident} :
    .interface i ∈ body.parts ↔ i ∈ body.interfaces := by
  simp [parts]

/-- The members of a body are among its parts. -/
@[simp] lemma member_mem_parts {m : Ident} : .member m ∈ body.parts ↔ m ∈ body.members := by
  simp [parts]

/-- The values of a body are among its parts. -/
@[simp] lemma value_mem_parts {v : Ident} : .value v ∈ body.parts ↔ v ∈ body.values := by
  simp [parts]

/-- Only object, input and interface types have fields. -/
lemma kind_of_mem_fields {f : FieldNode} (mem : f ∈ body.fields) :
    body.kind = .object ∨ body.kind = .input ∨ body.kind = .interface := by
  cases body with
  | object _ _ => exact .inl rfl
  | input _ => exact .inr (.inl rfl)
  | interface _ _ => exact .inr (.inr rfl)
  | scalar => cases mem
  | union _ => cases mem
  | enum _ => cases mem

/-- Only enums have values. -/
lemma kind_of_mem_values {v : Ident} (mem : v ∈ body.values) : body.kind = .enum := by
  cases body with
  | enum _ => rfl
  | scalar => cases mem
  | object _ _ => cases mem
  | interface _ _ => cases mem
  | union _ => cases mem
  | input _ => cases mem

/-- Only unions have members. -/
lemma kind_of_mem_members {m : Ident} (mem : m ∈ body.members) : body.kind = .union := by
  cases body with
  | union _ => rfl
  | scalar => cases mem
  | object _ _ => cases mem
  | interface _ _ => cases mem
  | enum _ => cases mem
  | input _ => cases mem

/-- Only object and interface types have interfaces. -/
lemma kind_of_mem_interfaces {i : Ident} (mem : i ∈ body.interfaces) :
    body.kind = .object ∨ body.kind = .interface := by
  cases body with
  | object _ _ => exact .inl rfl
  | interface _ _ => exact .inr rfl
  | scalar => cases mem
  | union _ => cases mem
  | enum _ => cases mem
  | input _ => cases mem

end Sdl.TypeBody

/-! ## Type nodes -/

/-- The definition that a type node stands for. -/
def TypeNode.definition (n : TypeNode) : Definition := .type n.extends n.name n.body

/-- The type node of a definition, if it is one of a type. -/
def typeNode? : Definition → Option TypeNode
  | .type e name body => some ⟨e, name, body⟩
  | _ => none

/-- A definition has a type node if it is what this stands for. -/
lemma typeNode?_eq_some_iff {x : Definition} {n : TypeNode} :
    typeNode? x = some n ↔ x = n.definition := by
  constructor
  · intro eq
    cases x with
    | type e name body =>
      cases eq
      rfl
    | schema _ _ _ => cases eq
    | directive _ _ _ => cases eq
    | operation _ => cases eq
    | fragment _ => cases eq
  · rintro rfl
    rfl

namespace Sdl.Document

variable {d : Document}

/-- A definition defines a name if it is that of a type, and no extension. -/
lemma definedName?_eq_some_iff {x : Definition} {name : String} :
    definedName? x = some name ↔ ∃ i body, x = .type false i body ∧ i.text = name := by
  constructor
  · intro eq
    cases x with
    | type e i body =>
      cases e with
      | false => exact ⟨i, body, rfl, Option.some.inj eq⟩
      | true => cases eq
    | schema _ _ _ => cases eq
    | directive _ _ _ => cases eq
    | operation _ => cases eq
    | fragment _ => cases eq
  · rintro ⟨i, body, rfl, rfl⟩
    rfl

/-- The type nodes of a document are those of its definitions. -/
lemma typeNodes_eq_filterMap (d : Document) : d.typeNodes = d.definitions.filterMap typeNode? := by
  refine List.filterMap_congr fun x _ => ?_
  cases x <;> rfl

/-- A type node is one of a document if this has what it stands for. -/
lemma mem_typeNodes {n : TypeNode} : n ∈ d.typeNodes ↔ n.definition ∈ d.definitions := by
  simp only [typeNodes_eq_filterMap, List.mem_filterMap, typeNode?_eq_some_iff, exists_eq_right]

/-- Type nodes are in the order of their definitions. -/
lemma pair_sublist_typeNodes {m n : TypeNode} :
    [m, n].Sublist d.typeNodes ↔ [m.definition, n.definition].Sublist d.definitions := by
  rw [typeNodes_eq_filterMap, pair_sublist_filterMap]
  simp only [typeNode?_eq_some_iff]
  constructor
  · rintro ⟨_, _, sub, rfl, rfl⟩
    exact sub
  · intro sub
    exact ⟨_, _, sub, rfl, rfl⟩

/-- The bodies that a document has are those of its type nodes. -/
lemma hasBody_iff {i : Ident} {body : TypeBody} :
    d.HasBody i body ↔ ∃ n ∈ d.typeNodes, n.name = i ∧ n.body = body := by
  constructor
  · rintro ⟨e, mem⟩
    exact ⟨⟨e, i, body⟩, mem_typeNodes.2 mem, rfl, rfl⟩
  · rintro ⟨n, mem, rfl, rfl⟩
    exact ⟨n.extends, mem_typeNodes.1 mem⟩

/-- The types of a document are those that it declares. -/
lemma mem_typeNames {name : String} : name ∈ d.typeNames ↔ d.Declares name := by
  rw [typeNames, List.mem_eraseDups, List.mem_map]
  constructor
  · rintro ⟨n, mem, rfl⟩
    exact ⟨n.name, n.body, hasBody_iff.2 ⟨n, mem, rfl, rfl⟩, rfl⟩
  · rintro ⟨i, body, has, rfl⟩
    obtain ⟨n, mem, rfl, -⟩ := hasBody_iff.1 has
    exact ⟨n, mem, rfl⟩

/-- The bodies of a type are those of its nodes. -/
lemma bodiesOf_eq_map (d : Document) (name : String) :
    d.bodiesOf name = (d.nodesOf name).map (·.body) := by
  rw [nodesOf, typeNodes_eq_filterMap, bodiesOf, List.filter_filterMap, List.map_filterMap]
  refine List.filterMap_congr fun x _ => ?_
  cases x with
  | type e i body =>
    by_cases eq : i.text = name <;> simp [typeNode?, eq]
  | schema _ _ _ => rfl
  | directive _ _ _ => rfl
  | operation _ => rfl
  | fragment _ => rfl

/-- A body of a type is one that the document has under the name. -/
lemma mem_bodiesOf {name : String} {body : TypeBody} :
    body ∈ d.bodiesOf name ↔ ∃ i, d.HasBody i body ∧ i.text = name := by
  rw [bodiesOf_eq_map, List.mem_map]
  simp only [nodesOf, List.mem_filter, beq_iff_eq, hasBody_iff]
  constructor
  · rintro ⟨n, ⟨mem, rfl⟩, rfl⟩
    exact ⟨n.name, ⟨n, mem, rfl, rfl⟩, rfl⟩
  · rintro ⟨_, ⟨n, mem, rfl, rfl⟩, rfl⟩
    exact ⟨n, ⟨mem, rfl⟩, rfl⟩

/-- What is part of a type is part of a body that the document has under the name. -/
lemma mem_flatMap_bodiesOf {α : Type} {name : String} {parts : TypeBody → List α} {x : α} :
    x ∈ (d.bodiesOf name).flatMap parts ↔
      ∃ i body, d.HasBody i body ∧ i.text = name ∧ x ∈ parts body := by
  rw [List.mem_flatMap]
  constructor
  · rintro ⟨body, memBody, mem⟩
    obtain ⟨i, has, same⟩ := mem_bodiesOf.1 memBody
    exact ⟨i, body, has, same, mem⟩
  · rintro ⟨i, body, has, same, mem⟩
    exact ⟨body, mem_bodiesOf.2 ⟨i, has, same⟩, mem⟩

/-! ## Directives and schema nodes -/

/-- The directives of a document are those that it defines. -/
lemma mem_directives {i : Ident} {arguments : List ArgumentNode} :
    (i, arguments) ∈ d.directives ↔ .directive false i arguments ∈ d.definitions := by
  rw [directives, List.mem_filterMap]
  constructor
  · rintro ⟨x, mem, eq⟩
    split at eq
    · cases eq
      exact mem
    · cases eq
  · intro mem
    exact ⟨_, mem, rfl⟩

/-- The schema nodes of a document are the roots of its schema definitions and extensions. -/
lemma mem_schemaNodes {roots : List RootNode} :
    roots ∈ d.schemaNodes ↔ ∃ e p, .schema e p roots ∈ d.definitions := by
  rw [schemaNodes, List.mem_filterMap]
  constructor
  · rintro ⟨x, mem, eq⟩
    split at eq
    · cases eq
      exact ⟨_, _, mem⟩
    · cases eq
  · rintro ⟨e, p, mem⟩
    exact ⟨_, mem, rfl⟩

end Sdl.Document

end SchemaLint

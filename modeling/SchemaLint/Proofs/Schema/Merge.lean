import Mathlib
import SchemaLint.Proofs.Schema.TypeRef
import SchemaLint.Proofs.Schema.WellFormed

/-!
# Merged definitions

The definitions and extensions of a type may stand anywhere in a document, among those of other types
and in any order. The table has one type for all of them, in which nothing is lost, repeated or put in
another order: `Table.build_merges`.
-/

namespace SchemaLint

open Sdl (ArgumentNode Definition Document FieldNode Ident TypeBody TypeExpr)

/-! ## What nodes hold -/

/-- The argument is that of the node. -/
structure Argument.Holds (a : Argument) (node : ArgumentNode) : Prop where
  name : a.name = node.name.text
  type : a.type = node.type.toRef
  position : a.position = node.name.position

/-- The field is that of the node, with its arguments. -/
structure Field.Holds (f : Field) (node : FieldNode) : Prop where
  name : f.name = node.name.text
  type : f.type = node.type.toRef
  arguments : List.Forall₂ Argument.Holds f.arguments node.arguments
  position : f.position = node.name.position

/-- The value is that of the name. -/
structure EnumValue.Holds (v : EnumValue) (node : Ident) : Prop where
  name : v.name = node.text
  position : v.position = node.position

/-- The name of the type that is defined or extended. -/
def Sdl.Document.declaredName? : Definition → Option String
  | .type _ i _ => some i.text
  | _ => none

open Sdl.Document (declaredName?)

/-- The type is made of all its definitions and extensions, one after the other. It stands where it is
defined or, if it is only extended, where it is extended first. -/
structure TypeDef.Merges (t : TypeDef) (d : Document) : Prop where
  fields : List.Forall₂ Field.Holds t.fields (d.fieldsOf t.name)
  values : List.Forall₂ EnumValue.Holds t.values (d.valuesOf t.name)
  members : t.members = ((d.bodiesOf t.name).flatMap (·.members)).map (·.text)
  interfaces : t.interfaces = ((d.bodiesOf t.name).flatMap (·.interfaces)).map (·.text)
  kind : ∀ body ∈ d.bodiesOf t.name, body.kind = t.kind
  defined : ∀ i body, .type false i body ∈ d.definitions → i.text = t.name →
    t.position = i.position
  onlyExtended : (∀ i body, .type false i body ∈ d.definitions → i.text ≠ t.name) →
    ∃ i body, d.definitions.find? (declaredName? · == some t.name) = some (.type true i body) ∧
      t.position = i.position

/-! ## Types from nodes -/

/-- The field that is made of a node holds what the node says. -/
lemma Field.holds_ofNode (owner : String) (node : FieldNode) : (ofNode owner node).Holds node where
  name := rfl
  type := rfl
  arguments := List.forall₂_map_left_iff.2 (List.forall₂_same.2 fun _ _ => ⟨rfl, rfl, rfl⟩)
  position := rfl

namespace Sdl.Document

variable {d : Document} {name : String} {first : TypeNode} {rest : List TypeNode}

/-- The types of a document are the declared ones, in the order in which they come first. -/
lemma typeNames_eq (d : Document) :
    d.typeNames = (d.definitions.filterMap declaredName?).eraseDups := by
  rw [typeNames, typeNodes_eq_filterMap, List.map_filterMap]
  congr 1
  refine List.filterMap_congr fun x _ => ?_
  cases x <;> rfl

/-- The first node of a type is its first definition or extension. -/
lemma find?_declaredName? (nodes : d.nodesOf name = first :: rest) :
    d.definitions.find? (declaredName? · == some name) = some first.definition := by
  have found : d.typeNodes.find? (·.name.text == name) = some first := by
    rw [← List.head?_filter]
    exact congrArg List.head? nodes
  rw [typeNodes_eq_filterMap, List.find?_filterMap] at found
  obtain ⟨x, found, node⟩ := Option.bind_eq_some_iff.1 found
  rw [typeNode?_eq_some_iff.1 node] at found
  rw [← found]
  congr 1
  funext x
  cases x <;> rfl

/-- A type has one definition at most. -/
lemma Consistent.definition_unique (consistent : d.Consistent) {i j : Ident} {body body' : TypeBody}
    (mem : .type false i body ∈ d.definitions) (mem' : .type false j body' ∈ d.definitions)
    (same : i.text = j.text) : i = j := by
  by_contra ne
  have different : (.type false i body : Definition) ≠ .type false j body' := by
    rintro ⟨⟩
    exact ne rfl
  have distinct := List.nodup_iff_sublist.1 consistent.definedOnce
  rcases pair_sublist_or mem mem' different with before | after
  · refine distinct i.text (pair_sublist_filterMap.2 ⟨_, _, before, rfl, ?_⟩)
    rw [same, definedName?]
  · refine distinct i.text (pair_sublist_filterMap.2 ⟨_, _, after, ?_, rfl⟩)
    rw [same, definedName?]

/-- A type stands where it is defined. -/
lemma Consistent.position_ofNodes (consistent : d.Consistent)
    (nodes : d.nodesOf name = first :: rest) {i : Ident} {body : TypeBody}
    (mem : .type false i body ∈ d.definitions) (same : i.text = name) :
    (TypeDef.ofNodes name first rest).position = i.position := by
  have listed : ⟨false, i, body⟩ ∈ d.nodesOf name :=
    List.mem_filter.2 ⟨mem_typeNodes.2 mem, by simpa using same⟩
  rw [TypeDef.ofNodes, ← nodes]
  cases found : (d.nodesOf name).find? (!·.extends) with
  | none => exact absurd (List.find?_eq_none.1 found _ listed) (by simp)
  | some n =>
    obtain ⟨memN, sameN⟩ := List.mem_filter.1 (List.mem_of_find?_eq_some found)
    have base : n.extends = false := by simpa using List.find?_some found
    have definition : .type false n.name n.body ∈ d.definitions := base ▸ mem_typeNodes.1 memN
    have same : n.name.text = i.text := (by simpa using sameN : n.name.text = name).trans same.symm
    exact congrArg Ident.position (consistent.definition_unique definition mem same)

/-- A type that is only extended stands where it is extended first. -/
lemma position_ofNodes_of_extended (nodes : d.nodesOf name = first :: rest)
    (undefined : ∀ i body, .type false i body ∈ d.definitions → i.text ≠ name) :
    first.extends = true ∧ (TypeDef.ofNodes name first rest).position = first.name.position := by
  have extended : ∀ n ∈ d.nodesOf name, n.extends = true := by
    intro n mem
    obtain ⟨mem, same⟩ := List.mem_filter.1 mem
    by_contra base
    have definition : .type false n.name n.body ∈ d.definitions :=
      Bool.eq_false_iff.2 base ▸ mem_typeNodes.1 mem
    exact undefined _ _ definition (by simpa using same)
  have none_found : (d.nodesOf name).find? (!·.extends) = none := by
    refine List.find?_eq_none.2 fun n mem => ?_
    simp [extended n mem]
  refine ⟨extended first (nodes ▸ List.mem_cons_self), ?_⟩
  rw [TypeDef.ofNodes, ← nodes, none_found]
  rfl

/-- A type of a consistent document is made of its nodes. -/
lemma Consistent.merges_ofNodes (consistent : d.Consistent)
    (nodes : d.nodesOf name = first :: rest) : (TypeDef.ofNodes name first rest).Merges d where
  fields := by
    rw [fields_ofNodes nodes]
    exact List.forall₂_map_left_iff.2 (List.forall₂_same.2 fun f _ => Field.holds_ofNode name f)
  values := by
    rw [values_ofNodes nodes]
    exact List.forall₂_map_left_iff.2 (List.forall₂_same.2 fun _ _ => ⟨rfl, rfl⟩)
  members := members_ofNodes nodes
  interfaces := interfaces_ofNodes nodes
  kind _ mem := consistent.kind_ofNodes nodes mem
  defined _ _ mem same := consistent.position_ofNodes nodes mem same
  onlyExtended undefined := by
    obtain ⟨extended, position⟩ := position_ofNodes_of_extended nodes undefined
    refine ⟨first.name, first.body, ?_, position⟩
    rw [← extended]
    exact find?_declaredName? nodes

end Sdl.Document

/-! ## Tables -/

/-- The types of a table that is built of a document are those that the document defines or extends, in
the order in which they come first, and each is made of all its definitions and extensions. The type
of a field or an argument is kept with all its wrappers. -/
theorem Table.build_merges {d : Document} {source : Option String} {table : Table}
    (built : Table.build d source = .ok table) :
    (∀ name, name ∈ table.types.map (·.name) ↔ d.Declares name) ∧
    ((table.types.map (·.name)).Pairwise fun name name' =>
      d.definitions.findIdx (declaredName? · == some name) <
        d.definitions.findIdx (declaredName? · == some name')) ∧
    (∀ t ∈ table.types, t.Merges d) ∧
    ∀ type type' : TypeExpr, type.toRef = type'.toRef ↔ type.unplaced = type'.unplaced := by
  obtain ⟨consistent, rfl⟩ := Table.build_eq_ok_iff.1 built
  have types : (Table.ofTypes d.types d.roots (d.sourceName source)).types = d.types := rfl
  rw [types, Document.map_name_types]
  refine ⟨fun name => Document.mem_typeNames, ?_, fun t mem => ?_, fun _ _ => TypeExpr.toRef_eq_iff⟩
  · rw [Document.typeNames_eq]
    exact pairwise_findIdx_eraseDups_filterMap declaredName? d.definitions
  · obtain ⟨name, first, rest, nodes, rfl⟩ := Document.exists_nodes_of_mem_types mem
    exact consistent.merges_ofNodes nodes

/-- A document in which the definition and the extensions of `Role` and `User` are mixed, and in which
`Date` is only extended. -/
def mixedDocument : Document where
  definitions := [
    .type true ⟨"Role", ⟨1, 13⟩⟩ (.enum [⟨"GUEST", ⟨1, 20⟩⟩]),
    .type true ⟨"User", ⟨2, 13⟩⟩ (.object []
      [⟨⟨"roles", ⟨2, 20⟩⟩, [⟨⟨"at", ⟨2, 26⟩⟩, .named ⟨"Date", ⟨2, 30⟩⟩ true⟩],
        .list ⟨2, 38⟩ (.named ⟨"Role", ⟨2, 39⟩⟩ true) false⟩]),
    .type true ⟨"Date", ⟨3, 15⟩⟩ .scalar,
    .type false ⟨"Role", ⟨4, 6⟩⟩ (.enum [⟨"ADMIN", ⟨4, 13⟩⟩]),
    .type false ⟨"User", ⟨5, 6⟩⟩ (.object [] [⟨⟨"id", ⟨5, 13⟩⟩, [], .named ⟨"ID", ⟨5, 17⟩⟩ true⟩])]
  origin := none

/-- The types of `mixedDocument` come in the order of their first extensions, `Role` stands where it is
defined, and `Date` where it is extended. -/
theorem Table.build_merges_mixed :
    ∃ table, Table.build mixedDocument none = .ok table ∧
      table.types.map (fun t => (t.name, t.position)) =
        [("Role", ⟨4, 6⟩), ("User", ⟨5, 6⟩), ("Date", ⟨3, 15⟩)] ∧
      table.types.flatMap (·.values.map (·.name)) = ["GUEST", "ADMIN"] ∧
      table.types.flatMap (·.fields.map (·.name)) = ["roles", "id"] ∧
      (∀ name, name ∈ table.types.map (·.name) ↔ mixedDocument.Declares name) ∧
      ((table.types.map (·.name)).Pairwise fun name name' =>
        mixedDocument.definitions.findIdx (declaredName? · == some name) <
          mixedDocument.definitions.findIdx (declaredName? · == some name')) ∧
      (∀ t ∈ table.types, t.Merges mixedDocument) ∧
      ∀ type type' : TypeExpr, type.toRef = type'.toRef ↔ type.unplaced = type'.unplaced := by
  have built : Table.build mixedDocument none =
      .ok (.ofTypes mixedDocument.types mixedDocument.roots "<schema>") := rfl
  exact ⟨_, built, rfl, rfl, rfl, Table.build_merges built⟩

end SchemaLint

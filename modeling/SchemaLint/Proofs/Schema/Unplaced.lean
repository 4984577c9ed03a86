import Mathlib
import SchemaLint.Proofs.Schema.TypeRef
import SchemaLint.Schema.Build

/-!
# Schemas without positions

Positions go from a document to the parts of its table, and there is nothing in a table that depends
on them: what is looked up in a table without positions is what is looked up in the table, without its
positions, and the types and roots of a document without positions are those of the document.
-/

namespace SchemaLint

open Sdl (ArgumentNode FieldNode Ident TypeBody)

/-! ## Parts of a schema -/

/-- The argument without its position. -/
def Argument.unplaced (a : Argument) : Argument := { a with position := .unknown }

/-- The field without its positions. -/
def Field.unplaced (f : Field) : Field :=
  { f with arguments := f.arguments.map (·.unplaced), position := .unknown }

/-- The value without its position. -/
def EnumValue.unplaced (v : EnumValue) : EnumValue := { v with position := .unknown }

/-- The type without its positions. -/
def TypeDef.unplaced (t : TypeDef) : TypeDef :=
  { t with
    fields := t.fields.map (·.unplaced)
    values := t.values.map (·.unplaced)
    position := .unknown }

/-- The entity without its positions. -/
def Entity.unplaced : Entity → Entity
  | .type t => .type t.unplaced
  | .field f => .field f.unplaced
  | .argument a => .argument a.unplaced

/-- The index without its positions. -/
def UsageIndex.unplaced (index : UsageIndex) : UsageIndex :=
  index.map fun e => (e.1, e.2.map (·.unplaced))

/-- The table without its positions. -/
def Table.unplaced (table : Table) : Table :=
  { table with types := table.types.map (·.unplaced), usages := table.usages.unplaced }

/-- The node without its positions. -/
def TypeNode.unplaced (n : TypeNode) : TypeNode := ⟨n.extends, n.name.unplaced, n.body.unplaced⟩

/-! ## Names -/

/-- A name reads the same without its position. -/
@[simp] lemma Sdl.Ident.text_unplaced (i : Ident) : i.unplaced.text = i.text := rfl

/-- An argument has its name without positions. -/
@[simp] lemma Argument.name_unplaced (a : Argument) : a.unplaced.name = a.name := rfl

/-- An argument has its type without positions. -/
@[simp] lemma Argument.type_unplaced (a : Argument) : a.unplaced.type = a.type := rfl

/-- A field has its name without positions. -/
@[simp] lemma Field.name_unplaced (f : Field) : f.unplaced.name = f.name := rfl

/-- A field has its type without positions. -/
@[simp] lemma Field.type_unplaced (f : Field) : f.unplaced.type = f.type := rfl

/-- The arguments of a field lose their positions with it. -/
@[simp] lemma Field.arguments_unplaced (f : Field) :
    f.unplaced.arguments = f.arguments.map (·.unplaced) := rfl

/-- A value of an enum has its name without positions. -/
@[simp] lemma EnumValue.name_unplaced (v : EnumValue) : v.unplaced.name = v.name := rfl

/-- A type has its name without positions. -/
@[simp] lemma TypeDef.name_unplaced (t : TypeDef) : t.unplaced.name = t.name := rfl

/-- A type has its kind without positions. -/
@[simp] lemma TypeDef.kind_unplaced (t : TypeDef) : t.unplaced.kind = t.kind := rfl

/-- The fields of a type lose their positions with it. -/
@[simp] lemma TypeDef.fields_unplaced (t : TypeDef) :
    t.unplaced.fields = t.fields.map (·.unplaced) := rfl

/-- The values of a type lose their positions with it. -/
@[simp] lemma TypeDef.values_unplaced (t : TypeDef) :
    t.unplaced.values = t.values.map (·.unplaced) := rfl

/-- An entity has its kind without positions. -/
@[simp] lemma Entity.kind_unplaced (e : Entity) : e.unplaced.kind = e.kind := by
  cases e <;> rfl

/-- An entity has its name without positions. -/
@[simp] lemma Entity.name_unplaced (e : Entity) : e.unplaced.name = e.name := by
  cases e <;> rfl

/-! ## Look-ups -/

/-- A look-up by what positions do not touch finds the thing without its positions. -/
lemma find?_map_of_key {α β : Type} {f : α → β} {p : β → Bool} {q : α → Bool}
    (same : ∀ x, p (f x) = q x) (xs : List α) : (xs.map f).find? p = (xs.find? q).map f := by
  rw [List.find?_map]
  congr 2
  exact funext same

/-- The argument of a name is found without positions. -/
@[simp] lemma Field.argument?_unplaced (f : Field) (name : String) :
    f.unplaced.argument? name = (f.argument? name).map (·.unplaced) :=
  find?_map_of_key (fun _ => rfl) _

/-- The field of a name is found without positions. -/
@[simp] lemma TypeDef.field?_unplaced (t : TypeDef) (name : String) :
    t.unplaced.field? name = (t.field? name).map (·.unplaced) :=
  find?_map_of_key (fun _ => rfl) _

namespace Table

variable (table : Table)

/-- The type of a name is found without positions. -/
@[simp] lemma get?_unplaced (name : String) :
    table.unplaced.get? name = (table.get? name).map (·.unplaced) :=
  find?_map_of_key (fun _ => rfl) _

/-- The kind of a type is found without positions. -/
@[simp] lemma kindOf?_unplaced (name : String) : table.unplaced.kindOf? name = table.kindOf? name := by
  rw [kindOf?, kindOf?, get?_unplaced]
  cases table.get? name <;> rfl

/-- Whether a type is a leaf is known without positions. -/
@[simp] lemma isLeaf_unplaced (name : String) : table.unplaced.isLeaf name = table.isLeaf name := by
  rw [isLeaf, isLeaf, kindOf?_unplaced]

/-- The usages of a type lose their positions with the table. -/
@[simp] lemma usagesOf_unplaced (name : String) :
    table.unplaced.usagesOf name = (table.usagesOf name).map (·.unplaced) := by
  have found : table.usages.unplaced.find? (·.1 == name) =
      (table.usages.find? (·.1 == name)).map fun e => (e.1, e.2.map (·.unplaced)) :=
    find?_map_of_key (fun _ => rfl) _
  rw [usagesOf, usagesOf, unplaced, found]
  cases table.usages.find? (·.1 == name) <;> rfl

/-- The root of an operation loses its positions with the table. -/
@[simp] lemma root?_unplaced (operation : Sdl.Operation) :
    table.unplaced.root? operation = (table.root? operation).map (·.unplaced) := by
  have rootName : table.unplaced.rootName? operation = table.rootName? operation := rfl
  rw [root?, root?, rootName]
  cases table.rootName? operation with
  | none => rfl
  | some name => exact table.get?_unplaced name

/-- The walk goes over the same entities, without their positions. -/
lemma entities_unplaced : table.unplaced.entities = table.entities.map (·.unplaced) := by
  have arguments (f : Field) : Entity.field f.unplaced :: f.unplaced.arguments.map .argument =
      (Entity.field f :: f.arguments.map .argument).map (·.unplaced) := by
    simp [Entity.unplaced]
  have type (t : TypeDef) : t.unplaced.entities = t.entities.map (·.unplaced) := by
    simp only [TypeDef.entities, TypeDef.fields_unplaced, List.flatMap_map, arguments,
      List.map_cons, List.map_flatMap]
    rfl
  simp only [entities, unplaced, List.flatMap_map, type, List.map_flatMap]

end Table

/-! ## Tables -/

namespace UsageIndex

/-- An argument is added to an index in the same way without positions. -/
lemma add_unplaced (index : UsageIndex) (a : Argument) :
    UsageIndex.add a.unplaced (unplaced index) = unplaced (index.add a) := by
  induction index with
  | nil => rfl
  | cons e index ih =>
    obtain ⟨name, usages⟩ := e
    by_cases same : name = a.type.name
    · simp [add, unplaced, same]
    · calc UsageIndex.add a.unplaced (unplaced ((name, usages) :: index))
          = (name, usages.map (·.unplaced)) :: UsageIndex.add a.unplaced (unplaced index) :=
            if_neg same
        _ = unplaced ((name, usages) :: UsageIndex.add a index) := by rw [ih]; rfl
        _ = unplaced (UsageIndex.add a ((name, usages) :: index)) := by rw [add, if_neg same]

/-- Where each step is the same with and without positions, so is the whole way. -/
lemma foldl_unplaced {α : Type} {step : UsageIndex → α → UsageIndex} {g : α → α}
    (commutes : ∀ index x, step (unplaced index) (g x) = unplaced (step index x))
    (xs : List α) (index : UsageIndex) :
    (xs.map g).foldl step (unplaced index) = unplaced (xs.foldl step index) := by
  induction xs generalizing index with
  | nil => rfl
  | cons x xs ih => rw [List.map_cons, List.foldl_cons, commutes, ih, List.foldl_cons]

/-- The usages of types without positions are indexed as those of the types, by induction on
these. -/
lemma ofTypes_unplaced (types : List TypeDef) :
    ofTypes (types.map (·.unplaced)) = unplaced (ofTypes types) :=
  foldl_unplaced (fun _ t => foldl_unplaced (fun _ f => foldl_unplaced add_unplaced f.arguments _)
    t.fields _) types []

end UsageIndex

/-- The table of types without positions is that of the types without its positions. -/
lemma Table.ofTypes_unplaced (types : List TypeDef) (roots : List (Sdl.Operation × String))
    (source : String) :
    ofTypes (types.map (·.unplaced)) roots source = (ofTypes types roots source).unplaced := by
  -- the tables before the results of mutations are looked up in them
  have bare : unplaced ⟨types, roots, source, .ofTypes types, []⟩ =
      ⟨types.map (·.unplaced), roots, source, .ofTypes (types.map (·.unplaced)), []⟩ := by
    rw [unplaced, UsageIndex.ofTypes_unplaced]
  have root := root?_unplaced ⟨types, roots, source, .ofTypes types, []⟩ .mutation
  rw [bare] at root
  simp only [ofTypes, root, Option.map_map, Function.comp_def, TypeDef.fields_unplaced,
    List.map_map, Field.type_unplaced]
  rw [UsageIndex.ofTypes_unplaced]
  rfl

/-! ## Documents -/

namespace Sdl

namespace TypeBody

variable (body : TypeBody)

/-- A body has its kind without positions. -/
@[simp] lemma kind_unplaced : body.unplaced.kind = body.kind := by
  cases body <;> rfl

/-- The fields of a body lose their positions with it. -/
@[simp] lemma fields_unplaced : body.unplaced.fields = body.fields.map (·.unplaced) := by
  cases body <;> rfl

/-- The interfaces of a body lose their positions with it. -/
@[simp] lemma interfaces_unplaced : body.unplaced.interfaces = body.interfaces.map (·.unplaced) := by
  cases body <;> rfl

/-- The members of a body lose their positions with it. -/
@[simp] lemma members_unplaced : body.unplaced.members = body.members.map (·.unplaced) := by
  cases body <;> rfl

/-- The values of a body lose their positions with it. -/
@[simp] lemma values_unplaced : body.unplaced.values = body.values.map (·.unplaced) := by
  cases body <;> rfl

end TypeBody

namespace Document

variable (d : Document)

/-- The type nodes of a document lose their positions with it. -/
lemma typeNodes_unplaced : d.unplaced.typeNodes = d.typeNodes.map (·.unplaced) := by
  rw [typeNodes, typeNodes, unplaced, List.filterMap_map, List.map_filterMap]
  refine List.filterMap_congr fun x _ => ?_
  cases x <;> rfl

/-- The types of a document come in the same order without positions. -/
@[simp] lemma typeNames_unplaced : d.unplaced.typeNames = d.typeNames := by
  rw [typeNames, typeNames, typeNodes_unplaced, List.map_map]
  rfl

/-- The nodes of a type lose their positions with the document. -/
lemma nodesOf_unplaced (name : String) :
    d.unplaced.nodesOf name = (d.nodesOf name).map (·.unplaced) := by
  rw [nodesOf, nodesOf, typeNodes_unplaced, List.filter_map]
  rfl

/-- The schema nodes of a document lose their positions with it. -/
lemma schemaNodes_unplaced :
    d.unplaced.schemaNodes = d.schemaNodes.map (·.map fun r => ⟨r.operation, r.type.unplaced⟩) := by
  rw [schemaNodes, schemaNodes, unplaced, List.filterMap_map, List.map_filterMap]
  refine List.filterMap_congr fun x _ => ?_
  cases x <;> rfl

end Document

end Sdl

/-- An argument is made of its node with or without positions. -/
lemma Argument.ofNode_unplaced (owner field : String) (a : ArgumentNode) :
    ofNode owner field a.unplaced = (ofNode owner field a).unplaced := by
  simp [ofNode, unplaced, ArgumentNode.unplaced, Ident.unplaced]

/-- A field is made of its node with or without positions. -/
lemma Field.ofNode_unplaced (owner : String) (f : FieldNode) :
    ofNode owner f.unplaced = (ofNode owner f).unplaced := by
  simp [ofNode, unplaced, FieldNode.unplaced, Ident.unplaced, Argument.ofNode_unplaced]

/-- The node that is no extension is found without positions. -/
lemma TypeNode.find?_base_unplaced (nodes : List TypeNode) :
    (nodes.map (·.unplaced)).find? (!·.extends) =
      (nodes.find? (!·.extends)).map (·.unplaced) :=
  find?_map_of_key (fun _ => rfl) nodes

/-- A type is made of its nodes with or without positions. -/
lemma TypeDef.ofNodes_unplaced (name : String) (first : TypeNode) (rest : List TypeNode) :
    ofNodes name first.unplaced (rest.map (·.unplaced)) = (ofNodes name first rest).unplaced := by
  have base : (first.unplaced :: rest.map (·.unplaced)).find? (!·.extends) =
      ((first :: rest).find? (!·.extends)).map (·.unplaced) :=
    TypeNode.find?_base_unplaced (first :: rest)
  have kind : first.unplaced.body.kind = first.body.kind := first.body.kind_unplaced
  have bodies : (first.unplaced :: rest.map (·.unplaced)).map (·.body) =
      ((first :: rest).map (·.body)).map (·.unplaced) := by
    simp [TypeNode.unplaced]
  simp only [ofNodes, base, bodies, Option.getD_map]
  -- what is said of one body is said of all of them in order
  generalize (first :: rest).map (·.body) = bodies
  simp only [List.flatMap_map, TypeBody.fields_unplaced, TypeBody.values_unplaced,
    TypeBody.members_unplaced, TypeBody.interfaces_unplaced, ← List.map_flatMap, List.map_map,
    Function.comp_def, Field.ofNode_unplaced, unplaced]
  rw [kind]
  rfl

namespace Sdl.Document

variable (d : Document)

/-- The types of a document lose their positions with it. -/
lemma types_unplaced : d.unplaced.types = d.types.map (·.unplaced) := by
  rw [types, types, typeNames_unplaced, List.map_filterMap]
  refine List.filterMap_congr fun name _ => ?_
  rw [nodesOf_unplaced]
  cases d.nodesOf name with
  | nil => rfl
  | cons first rest => exact congrArg some (TypeDef.ofNodes_unplaced name first rest)

/-- The roots of a document are the same without positions. -/
lemma roots_unplaced : d.unplaced.roots = d.roots := by
  have find? (name : String) : (d.types.map (·.unplaced)).find? (·.name == name) =
      (d.types.find? (·.name == name)).map (·.unplaced) := find?_map_of_key (fun _ => rfl) _
  simp only [roots, schemaNodes_unplaced, types_unplaced, find?, List.isEmpty_map, Option.map_map,
    Function.comp_def, TypeDef.kind_unplaced, ← List.map_flatten, List.foldl_map, Ident.text_unplaced]

end Sdl.Document

end SchemaLint

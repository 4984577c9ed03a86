import Mathlib
import SchemaLint.Proofs.Schema.Acceptance
import SchemaLint.Proofs.Schema.TypeRef

/-!
# Well-formed tables

In a well-formed table names are unique among their like, every part names what it is a part of,
types have the parts of their kind only, and every reference is to a type of the table or a built-in
scalar. The owner of any entity is then found again. Tables of documents are well formed.
-/

namespace SchemaLint

open Sdl (Document FieldNode Operation Position RootNode TypeBody)

/-! ## Well-formedness -/

/-- A field of the type `owner`, with its arguments. -/
structure Field.WellFormed (owner : String) (f : Field) : Prop where
  owner_eq : f.owner = owner
  argumentsDistinct : (f.arguments.map (·.name)).Nodup
  arguments : ∀ a ∈ f.arguments, a.owner = owner ∧ a.field = f.name

/-- The parts of a type are its own, have different names and fit its kind. -/
structure TypeDef.WellFormed (t : TypeDef) : Prop where
  fieldsDistinct : (t.fields.map (·.name)).Nodup
  valuesDistinct : (t.values.map (·.name)).Nodup
  fields : ∀ f ∈ t.fields, f.WellFormed t.name
  values : ∀ v ∈ t.values, v.owner = t.name
  fieldsKind : t.fields ≠ [] → t.kind = .object ∨ t.kind = .input ∨ t.kind = .interface
  valuesKind : t.values ≠ [] → t.kind = .enum
  membersKind : t.members ≠ [] → t.kind = .union
  interfacesKind : t.interfaces ≠ [] → t.kind = .object ∨ t.kind = .interface

/-- The names of types that occur in a type. -/
def TypeDef.references (t : TypeDef) : List String :=
  t.fields.flatMap (fun f => f.type.name :: f.arguments.map (·.type.name)) ++ t.members ++
    t.interfaces

namespace Table

/-- The names of types that occur in the types and root types of a table. -/
def references (table : Table) : List String :=
  table.types.flatMap TypeDef.references ++ table.roots.map (·.2)

/-- A table of types that are told apart by name, whose references are to them or to built-in
scalars. -/
structure WellFormed (table : Table) : Prop where
  typesDistinct : (table.types.map (·.name)).Nodup
  types : ∀ t ∈ table.types, t.WellFormed
  resolved : ∀ name ∈ table.references, table.declares name ∨ name ∈ builtinScalars

/-- Lookups by the names that an entity carries find what it is a part of. -/
def Finds (table : Table) : Entity → Prop
  | .type t => table.get? t.name = some t
  | .field f => ∃ t, table.ownerOf? f = some t ∧ f ∈ t.fields
  | .argument a => ∃ t f, table.argumentOwner? a = some t ∧ table.fieldOf? a = some f ∧
    f ∈ t.fields ∧ a ∈ f.arguments

/-! ## Owners -/

section Owners
variable {table : Table} {t : TypeDef}

/-- A table declares the names of its types. -/
lemma declares_iff {name : String} : table.declares name ↔ name ∈ table.types.map (·.name) := by
  rw [declares, get?, List.find?_isSome, List.mem_map]
  simp only [beq_iff_eq]

/-- A type of a well-formed table is found by its name. -/
lemma WellFormed.get?_eq_some (wf : table.WellFormed) (mem : t ∈ table.types) :
    table.get? t.name = some t :=
  find?_key_eq_some wf.typesDistinct mem

/-- The owner of a field is the type that has it. -/
lemma WellFormed.ownerOf?_eq_some (wf : table.WellFormed) (mem : t ∈ table.types) {f : Field}
    (memF : f ∈ t.fields) : table.ownerOf? f = some t := by
  rw [ownerOf?, ((wf.types t mem).fields f memF).owner_eq]
  exact wf.get?_eq_some mem

/-- The type that an argument belongs to is found. -/
lemma WellFormed.argumentOwner?_eq_some (wf : table.WellFormed) (mem : t ∈ table.types) {f : Field}
    (memF : f ∈ t.fields) {a : Argument} (memA : a ∈ f.arguments) :
    table.argumentOwner? a = some t := by
  rw [argumentOwner?, (((wf.types t mem).fields f memF).arguments a memA).1]
  exact wf.get?_eq_some mem

/-- The field that an argument belongs to is found. -/
lemma WellFormed.fieldOf?_eq_some (wf : table.WellFormed) (mem : t ∈ table.types) {f : Field}
    (memF : f ∈ t.fields) {a : Argument} (memA : a ∈ f.arguments) :
    table.fieldOf? a = some f := by
  rw [fieldOf?, wf.argumentOwner?_eq_some mem memF memA, Option.bind_some, TypeDef.field?,
    (((wf.types t mem).fields f memF).arguments a memA).2]
  exact find?_key_eq_some (wf.types t mem).fieldsDistinct memF

/-- In a well-formed table, what an entity is a part of is found. -/
lemma WellFormed.finds (wf : table.WellFormed) {e : Entity} (mem : e ∈ table.entities) :
    table.Finds e := by
  obtain ⟨t, memT, mem⟩ := List.mem_flatMap.1 mem
  rcases List.mem_cons.1 mem with rfl | mem
  · exact wf.get?_eq_some memT
  · obtain ⟨f, memF, mem⟩ := List.mem_flatMap.1 mem
    rcases List.mem_cons.1 mem with rfl | mem
    · exact ⟨t, wf.ownerOf?_eq_some memT memF, memF⟩
    · obtain ⟨a, memA, rfl⟩ := List.mem_map.1 mem
      exact ⟨t, f, wf.argumentOwner?_eq_some memT memF memA, wf.fieldOf?_eq_some memT memF memA,
        memF, memA⟩

end Owners

end Table

/-! ## Types of a document -/

namespace Sdl.Document

variable {d : Document} {t : TypeDef} {name : String} {first : TypeNode} {rest : List TypeNode}

/-- A type of a document is made of the nodes of a name. -/
lemma exists_nodes_of_mem_types (mem : t ∈ d.types) :
    ∃ name first rest, d.nodesOf name = first :: rest ∧ t = .ofNodes name first rest := by
  obtain ⟨name, -, eq⟩ := List.mem_filterMap.1 mem
  split at eq
  · cases eq
  · rename_i first rest nodes
    exact ⟨name, first, rest, nodes, (Option.some.inj eq).symm⟩

/-- The types of a document have the names that are declared in it, in order. -/
lemma map_name_types (d : Document) : d.types.map (·.name) = d.typeNames := by
  rw [types, List.map_filterMap]
  refine (List.filterMap_congr fun name mem => ?_).trans List.filterMap_some
  -- each of the names has a node, so none is left out
  obtain ⟨i, body, has, rfl⟩ := mem_typeNames.1 mem
  obtain ⟨n, memN, rfl, -⟩ := hasBody_iff.1 has
  have listed : n ∈ d.nodesOf n.name.text := List.mem_filter.2 ⟨memN, beq_self_eq_true _⟩
  cases nodes : d.nodesOf n.name.text with
  | nil => simp [nodes] at listed
  | cons first rest => rfl

/-- The fields of a type are those of its bodies, and so are its other parts. -/
lemma fields_ofNodes (nodes : d.nodesOf name = first :: rest) :
    (TypeDef.ofNodes name first rest).fields = (d.fieldsOf name).map (.ofNode name) := by
  rw [fieldsOf, bodiesOf_eq_map, nodes]
  rfl

/-- A type has the values of all its nodes, in order. -/
lemma values_ofNodes (nodes : d.nodesOf name = first :: rest) :
    (TypeDef.ofNodes name first rest).values =
      (d.valuesOf name).map fun v => ⟨v.text, name, v.position⟩ := by
  rw [valuesOf, bodiesOf_eq_map, nodes]
  rfl

/-- A type has the members of all its nodes, in order. -/
lemma members_ofNodes (nodes : d.nodesOf name = first :: rest) :
    (TypeDef.ofNodes name first rest).members =
      ((d.bodiesOf name).flatMap (·.members)).map (·.text) := by
  rw [bodiesOf_eq_map, nodes]
  rfl

/-- A type has the interfaces of all its nodes, in order. -/
lemma interfaces_ofNodes (nodes : d.nodesOf name = first :: rest) :
    (TypeDef.ofNodes name first rest).interfaces =
      ((d.bodiesOf name).flatMap (·.interfaces)).map (·.text) := by
  rw [bodiesOf_eq_map, nodes]
  rfl

/-- The kind of a type is that of any of its bodies. -/
lemma Consistent.kind_ofNodes (consistent : d.Consistent) (nodes : d.nodesOf name = first :: rest)
    {body : TypeBody} (mem : body ∈ d.bodiesOf name) :
    body.kind = (TypeDef.ofNodes name first rest).kind := by
  have memFirst : first.body ∈ d.bodiesOf name := by
    rw [bodiesOf_eq_map, nodes]
    exact List.mem_cons_self
  obtain ⟨i, has, rfl⟩ := mem_bodiesOf.1 mem
  obtain ⟨j, has', same⟩ := mem_bodiesOf.1 memFirst
  exact consistent.oneKind has has' same.symm

/-- A part of a type is one of a body of its kind. -/
lemma Consistent.exists_body (consistent : d.Consistent) (nodes : d.nodesOf name = first :: rest)
    {α : Type} {parts : TypeBody → List α} (ne : (d.bodiesOf name).flatMap parts ≠ []) :
    ∃ body x, x ∈ parts body ∧ body.kind = (TypeDef.ofNodes name first rest).kind := by
  obtain ⟨x, mem⟩ := List.exists_mem_of_ne_nil _ ne
  obtain ⟨body, memBody, memX⟩ := List.mem_flatMap.1 mem
  exact ⟨body, x, memX, consistent.kind_ofNodes nodes memBody⟩

/-- The fields of a consistent document are well-formed. -/
lemma Consistent.wellFormed_field (consistent : d.Consistent) {f : FieldNode}
    (mem : f ∈ d.fieldsOf name) : (Field.ofNode name f).WellFormed name := by
  obtain ⟨i, body, has, rfl, memF⟩ := mem_flatMap_bodiesOf.1 mem
  refine ⟨rfl, ?_, ?_⟩
  · have names : (Field.ofNode i.text f).arguments.map (·.name) = f.arguments.map (·.name.text) :=
      List.map_map
    rw [names]
    exact consistent.argumentsDistinct has memF
  · intro a memA
    obtain ⟨node, -, rfl⟩ := List.mem_map.1 memA
    exact ⟨rfl, rfl⟩

/-- The types of a consistent document are well-formed. -/
lemma Consistent.wellFormed_ofNodes (consistent : d.Consistent)
    (nodes : d.nodesOf name = first :: rest) : (TypeDef.ofNodes name first rest).WellFormed where
  fieldsDistinct := by
    rw [fields_ofNodes nodes, List.map_map]
    exact consistent.fieldsDistinct name
  valuesDistinct := by
    rw [values_ofNodes nodes, List.map_map]
    exact consistent.valuesDistinct name
  fields := by
    intro f memF
    rw [fields_ofNodes nodes] at memF
    obtain ⟨node, memNode, rfl⟩ := List.mem_map.1 memF
    exact consistent.wellFormed_field memNode
  values := by
    intro v memV
    rw [values_ofNodes nodes] at memV
    obtain ⟨node, -, rfl⟩ := List.mem_map.1 memV
    rfl
  fieldsKind := by
    intro ne
    rw [fields_ofNodes nodes, ne_eq, List.map_eq_nil_iff] at ne
    obtain ⟨body, f, mem, kind⟩ := consistent.exists_body nodes ne
    exact kind ▸ TypeBody.kind_of_mem_fields mem
  valuesKind := by
    intro ne
    rw [values_ofNodes nodes, ne_eq, List.map_eq_nil_iff] at ne
    obtain ⟨body, v, mem, kind⟩ := consistent.exists_body nodes ne
    exact kind ▸ TypeBody.kind_of_mem_values mem
  membersKind := by
    intro ne
    rw [members_ofNodes nodes, ne_eq, List.map_eq_nil_iff] at ne
    obtain ⟨body, m, mem, kind⟩ := consistent.exists_body nodes ne
    exact kind ▸ TypeBody.kind_of_mem_members mem
  interfacesKind := by
    intro ne
    rw [interfaces_ofNodes nodes, ne_eq, List.map_eq_nil_iff] at ne
    obtain ⟨body, i, mem, kind⟩ := consistent.exists_body nodes ne
    exact kind ▸ TypeBody.kind_of_mem_interfaces mem

/-! ## References of a document -/

/-- A name that occurs in a type of a document is one that the document refers to. -/
lemma refers_of_mem_references (nodes : d.nodesOf name = first :: rest) {referenced : String}
    (mem : referenced ∈ (TypeDef.ofNodes name first rest).references) :
    ∃ referencedFrom position, d.Refers referenced referencedFrom position := by
  rw [TypeDef.references, fields_ofNodes nodes, members_ofNodes nodes, interfaces_ofNodes nodes,
    List.mem_append, List.mem_append] at mem
  rcases mem with (mem | mem) | mem
  · obtain ⟨f, memF, memType⟩ := List.mem_flatMap.1 mem
    obtain ⟨node, memNode, rfl⟩ := List.mem_map.1 memF
    obtain ⟨i, body, has, rfl, own⟩ := mem_flatMap_bodiesOf.1 memNode
    rcases List.mem_cons.1 memType with rfl | memType
    · rw [Field.ofNode, Sdl.TypeExpr.toRef_name]
      exact ⟨_, _, .fieldType has own⟩
    · obtain ⟨a, memA, rfl⟩ := List.mem_map.1 memType
      obtain ⟨argument, memArgument, rfl⟩ := List.mem_map.1 memA
      rw [Argument.ofNode, Sdl.TypeExpr.toRef_name]
      exact ⟨_, _, .argumentType has own memArgument⟩
  · obtain ⟨m, memM, rfl⟩ := List.mem_map.1 mem
    obtain ⟨i, body, has, rfl, own⟩ := mem_flatMap_bodiesOf.1 memM
    exact ⟨_, _, .member has own⟩
  · obtain ⟨m, memM, rfl⟩ := List.mem_map.1 mem
    obtain ⟨i, body, has, rfl, own⟩ := mem_flatMap_bodiesOf.1 memM
    exact ⟨_, _, .interface has own⟩

/-- Assigning a root type adds nothing else to the root types. -/
lemma mem_of_mem_assignRoot {operation : Operation} {root : Operation × String}
    {roots : List (Operation × String)} (mem : root ∈ assignRoot operation name roots) :
    root = (operation, name) ∨ root ∈ roots := by
  induction roots with
  | nil => exact .inl (List.mem_singleton.1 mem)
  | cons r roots ih =>
    rw [assignRoot] at mem
    split at mem
    · rename_i same
      rcases List.mem_cons.1 mem with rfl | mem
      · exact .inl (by rw [same])
      · exact .inr (List.mem_cons_of_mem r mem)
    · rcases List.mem_cons.1 mem with rfl | mem
      · exact .inr List.mem_cons_self
      · exact (ih mem).imp_right (List.mem_cons_of_mem r)

/-- Roots that are assigned are those of the nodes, or were there before. -/
lemma mem_of_mem_foldl_assignRoot {nodes : List RootNode} {root : Operation × String}
    {roots : List (Operation × String)}
    (mem : root ∈ nodes.foldl (fun roots r => assignRoot r.operation r.type.text roots) roots) :
    (∃ r ∈ nodes, root = (r.operation, r.type.text)) ∨ root ∈ roots := by
  induction nodes generalizing roots with
  | nil => exact .inr mem
  | cons r nodes ih =>
    rcases ih mem with ⟨r', memR, eq⟩ | mem
    · exact .inl ⟨r', List.mem_cons_of_mem r memR, eq⟩
    · rcases mem_of_mem_assignRoot mem with eq | mem
      · exact .inl ⟨r, List.mem_cons_self, eq⟩
      · exact .inr mem

/-- A root type of a document is one that it refers to or, by convention, one that it declares. -/
lemma declares_or_refers_of_mem_roots {root : Operation × String} (mem : root ∈ d.roots) :
    root.2 ∈ d.types.map (·.name) ∨
      ∃ referencedFrom position, d.Refers root.2 referencedFrom position := by
  rw [roots] at mem
  split at mem
  · obtain ⟨-, conventional⟩ := List.mem_filter.1 mem
    cases found : d.types.find? (·.name == root.2) with
    | none => simp [found] at conventional
    | some t =>
      have same : t.name = root.2 := by simpa using List.find?_some found
      exact .inl (same ▸ List.mem_map_of_mem (List.mem_of_find?_eq_some found))
  · rcases mem_of_mem_foldl_assignRoot mem with ⟨r, memR, rfl⟩ | mem
    · obtain ⟨roots, memRoots, memR⟩ := List.mem_flatten.1 memR
      obtain ⟨e, p, schema⟩ := mem_schemaNodes.1 memRoots
      exact .inr ⟨_, _, .root schema memR⟩
    · cases mem

end Sdl.Document

/-! ## Tables of documents -/

/-- The table of a consistent document is well formed. -/
lemma Table.wellFormed_of_consistent {d : Document} (consistent : d.Consistent) (source : String) :
    (Table.ofTypes d.types d.roots source).WellFormed := by
  have resolved : ∀ {name referencedFrom : String} {position : Position},
      d.Refers name referencedFrom position →
        name ∈ d.types.map (·.name) ∨ name ∈ builtinScalars := by
    intro name referencedFrom position refers
    rw [Document.map_name_types, Document.mem_typeNames]
    exact consistent.resolved refers
  refine ⟨?_, ?_, ?_⟩
  · show (d.types.map (·.name)).Nodup
    rw [Document.map_name_types]
    exact nodup_eraseDups _
  · intro t mem
    obtain ⟨name, first, rest, nodes, rfl⟩ := Document.exists_nodes_of_mem_types mem
    exact consistent.wellFormed_ofNodes nodes
  · intro name mem
    rw [Table.declares_iff]
    rcases List.mem_append.1 mem with mem | mem
    · obtain ⟨t, memT, mem⟩ := List.mem_flatMap.1 mem
      obtain ⟨name, first, rest, nodes, rfl⟩ := Document.exists_nodes_of_mem_types memT
      obtain ⟨_, _, refers⟩ := Document.refers_of_mem_references nodes mem
      exact resolved refers
    · obtain ⟨root, memRoot, rfl⟩ := List.mem_map.1 mem
      rcases Document.declares_or_refers_of_mem_roots memRoot with declared | ⟨_, _, refers⟩
      · exact .inl declared
      · exact resolved refers

/-- A table that is built is well-formed. -/
lemma Table.wellFormed_of_build {d : Document} {source : Option String} {table : Table}
    (built : Table.build d source = .ok table) : table.WellFormed := by
  obtain ⟨consistent, rfl⟩ := Table.build_eq_ok_iff.1 built
  exact wellFormed_of_consistent consistent _

/-- Every table that is built of a document is well formed, and what any entity of it is a part of
is found. -/
theorem Table.build_wellFormed {d : Document} {source : Option String} {table : Table}
    (built : Table.build d source = .ok table) :
    table.WellFormed ∧ ∀ e ∈ table.entities, table.Finds e := by
  rw [Table.build] at built
  cases none_found : Violation.all d with
  | cons v rest =>
    rw [none_found] at built
    cases built
  | nil =>
    rw [none_found] at built
    cases built
    have wf := Table.wellFormed_of_consistent (Violation.all_eq_nil_iff.1 none_found)
      (d.sourceName source)
    exact ⟨wf, fun e mem => wf.finds mem⟩

/-- A document with types of several kinds, one of which is extended before it is defined, and with
a schema definition. -/
def mergedDocument : Document where
  definitions := [
    .type true ⟨"User", ⟨1, 13⟩⟩ (.object [⟨"Node", ⟨1, 29⟩⟩]
      [⟨⟨"role", ⟨2, 3⟩⟩, [⟨⟨"at", ⟨2, 8⟩⟩, .named ⟨"Int", ⟨2, 12⟩⟩ false⟩],
        .named ⟨"Role", ⟨2, 18⟩⟩ true⟩]),
    .type false ⟨"User", ⟨4, 6⟩⟩ (.object [] [⟨⟨"id", ⟨5, 3⟩⟩, [], .named ⟨"ID", ⟨5, 7⟩⟩ true⟩]),
    .type false ⟨"Node", ⟨7, 11⟩⟩ (.interface []
      [⟨⟨"id", ⟨8, 3⟩⟩, [], .named ⟨"ID", ⟨8, 7⟩⟩ true⟩]),
    .type false ⟨"Role", ⟨10, 6⟩⟩ (.enum [⟨"ADMIN", ⟨11, 3⟩⟩, ⟨"GUEST", ⟨12, 3⟩⟩]),
    .type false ⟨"Result", ⟨14, 7⟩⟩ (.union [⟨"User", ⟨14, 16⟩⟩]),
    .schema false ⟨16, 1⟩ [⟨.query, ⟨"User", ⟨17, 10⟩⟩⟩]]
  origin := none

/-- The table of the document has all its types, and what their parts are parts of is found. -/
theorem Table.build_wellFormed_merged :
    ∃ table, Table.build mergedDocument none = .ok table ∧
      table.types.map (·.name) = ["User", "Node", "Role", "Result"] ∧
      table.roots = [(.query, "User")] ∧ table.entities.length = 8 ∧
      table.WellFormed ∧ ∀ e ∈ table.entities, table.Finds e := by
  have built : Table.build mergedDocument none =
      .ok (.ofTypes mergedDocument.types mergedDocument.roots "<schema>") := rfl
  exact ⟨_, built, rfl, rfl, rfl, Table.build_wellFormed built⟩

end SchemaLint

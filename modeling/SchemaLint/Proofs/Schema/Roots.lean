import Mathlib
import SchemaLint.Proofs.Schema.WellFormed

/-!
# Root types

Which root types the table of a document has. With any schema definition or extension they are the
types that these give to operations, of which the last one counts. Without any they are the object
types that are called by convention. So an extension switches the conventions off even if it gives no
type to any operation and there is no schema definition: `Table.build_roots_extendedOnly`.
-/

namespace SchemaLint

open Sdl (Definition Document Operation RootNode)

/-! ## Assignments -/

/-- Of the nodes that give a type to the operation, the last one gives it the type `name`. -/
def LastAssigned (operation : Operation) (name : String) (nodes : List RootNode) : Prop :=
  ∃ before r after, nodes = before ++ r :: after ∧ r.operation = operation ∧ r.type.text = name ∧
    ∀ r' ∈ after, r'.operation ≠ operation

section
variable {operation o : Operation} {name : String} {roots : List (Operation × String)}

/-- After an assignment the operation has the new root type, and others have their old one. -/
lemma find?_assignRoot :
    (assignRoot operation name roots).find? (·.1 == o) =
      if operation = o then some (operation, name) else roots.find? (·.1 == o) := by
  induction roots with
  | nil => by_cases same : operation = o <;> simp [assignRoot, same]
  | cons r roots ih =>
    obtain ⟨o', n⟩ := r
    rw [assignRoot]
    by_cases here : o' = operation
    · subst here
      by_cases same : o' = o <;> simp [same]
    · rw [if_neg here]
      by_cases same : o' = o
      · subst same
        simp [Ne.symm here]
      · simp [same, ih]

/-- A root that is assigned is one of an operation besides those that were there. -/
lemma mem_map_fst_assignRoot :
    o ∈ (assignRoot operation name roots).map (·.1) ↔ o = operation ∨ o ∈ roots.map (·.1) := by
  induction roots with
  | nil => simp [assignRoot]
  | cons r roots ih =>
    obtain ⟨o', n⟩ := r
    rw [assignRoot]
    by_cases here : o' = operation
    · subst here
      simp
    · rw [if_neg here, List.map_cons, List.mem_cons, ih, List.map_cons, List.mem_cons,
        or_left_comm]

/-- No operation has two roots when one is assigned. -/
lemma nodup_assignRoot (nodup : (roots.map (·.1)).Nodup) :
    ((assignRoot operation name roots).map (·.1)).Nodup := by
  induction roots with
  | nil => simp [assignRoot]
  | cons r roots ih =>
    obtain ⟨o', n⟩ := r
    rw [List.map_cons, List.nodup_cons] at nodup
    rw [assignRoot]
    by_cases here : o' = operation
    · -- the operation keeps its place
      rw [if_pos here]
      exact List.nodup_cons.2 nodup
    · rw [if_neg here]
      refine List.nodup_cons.2 ⟨fun mem => ?_, ih nodup.2⟩
      rcases mem_map_fst_assignRoot.1 mem with eq | mem
      · exact here eq
      · exact nodup.1 mem

variable {nodes : List RootNode}

/-- Nor when several are, by induction on them. -/
lemma nodup_foldl_assignRoot (nodup : (roots.map (·.1)).Nodup) :
    ((nodes.foldl (fun roots r => assignRoot r.operation r.type.text roots) roots).map
      (·.1)).Nodup := by
  induction nodes generalizing roots with
  | nil => exact nodup
  | cons r nodes ih => exact ih (nodup_assignRoot nodup)

/-- After some assignments an operation has the type that the last of them gives it, or its old one
if none of them gives it a type. -/
lemma find?_foldl_assignRoot :
    (nodes.foldl (fun roots r => assignRoot r.operation r.type.text roots) roots).find? (·.1 == o) =
      ((nodes.reverse.find? (·.operation == o)).map fun r => (r.operation, r.type.text)).or
        (roots.find? (·.1 == o)) := by
  induction nodes generalizing roots with
  | nil => rfl
  | cons r nodes ih =>
    -- the first node counts if no later one is for the operation
    rw [List.foldl_cons, ih, find?_assignRoot, List.reverse_cons, List.find?_append]
    cases nodes.reverse.find? (·.operation == o) with
    | some _ => rfl
    | none => by_cases same : r.operation = o <;> simp [same]

/-- The last node that gives a type to an operation is the first one from behind. -/
lemma lastAssigned_iff :
    LastAssigned operation name nodes ↔
      (nodes.reverse.find? (·.operation == operation)).map (·.type.text) = some name := by
  simp only [Option.map_eq_some_iff, List.find?_eq_some_iff_append]
  constructor
  · rintro ⟨before, r, after, rfl, same, rfl, none_after⟩
    refine ⟨r, ⟨by simpa using same, after.reverse, before.reverse, by simp, ?_⟩, rfl⟩
    intro r' mem
    simpa using none_after r' (List.mem_reverse.1 mem)
  · rintro ⟨r, ⟨same, after, before, eq, none_after⟩, rfl⟩
    refine ⟨before.reverse, r, after.reverse, ?_, by simpa using same, rfl, ?_⟩
    · simpa using congrArg List.reverse eq
    · intro r' mem
      simpa using none_after r' (List.mem_reverse.1 mem)

end

namespace Sdl.Document

variable {d : Document} {operation : Operation} {name : String}

/-! ## Roots of a document -/

/-- The document defines or extends an object type of the name. -/
def DeclaresObject (d : Document) (name : String) : Prop :=
  ∃ i body, d.HasBody i body ∧ i.text = name ∧ body.kind = .object

/-- The type that is found by a name is an object type if the document declares it as one. -/
lemma Consistent.declaresObject_iff (consistent : d.Consistent) :
    ((d.types.find? (·.name == name)).map (·.kind) = some .object) ↔ d.DeclaresObject name := by
  have distinct : (d.types.map (·.name)).Nodup := by
    rw [map_name_types]
    exact nodup_eraseDups _
  constructor
  · intro object
    obtain ⟨t, found, kind⟩ := Option.map_eq_some_iff.1 object
    have same : t.name = name := by simpa using List.find?_some found
    obtain ⟨name', first, rest, nodes, rfl⟩ :=
      exists_nodes_of_mem_types (List.mem_of_find?_eq_some found)
    have mem : first.body ∈ d.bodiesOf name' := by
      rw [bodiesOf_eq_map, nodes]
      exact List.mem_cons_self
    obtain ⟨i, has, same'⟩ := mem_bodiesOf.1 mem
    exact ⟨i, first.body, has, same'.trans same, kind⟩
  · rintro ⟨i, body, has, rfl, kind⟩
    have declared : i.text ∈ d.types.map (·.name) := by
      rw [map_name_types]
      exact mem_typeNames.2 ⟨i, body, has, rfl⟩
    obtain ⟨t, mem, same⟩ := List.mem_map.1 declared
    rw [← same, find?_key_eq_some distinct mem]
    obtain ⟨name', first, rest, nodes, rfl⟩ := exists_nodes_of_mem_types mem
    have same_kind := consistent.kind_ofNodes nodes (mem_bodiesOf.2 ⟨i, has, same.symm⟩)
    exact congrArg some (same_kind.symm.trans kind)

/-- The document defines or extends the schema. -/
def HasSchemaNode (d : Document) : Prop := ∃ e p roots, .schema e p roots ∈ d.definitions

/-- A document has schema nodes if it has a schema definition or extension. -/
lemma schemaNodes_ne_nil_iff : d.schemaNodes ≠ [] ↔ d.HasSchemaNode := by
  constructor
  · intro ne
    obtain ⟨roots, mem⟩ := List.exists_mem_of_ne_nil _ ne
    obtain ⟨e, p, mem⟩ := mem_schemaNodes.1 mem
    exact ⟨e, p, roots, mem⟩
  · rintro ⟨e, p, roots, mem⟩
    exact List.ne_nil_of_mem (mem_schemaNodes.2 ⟨e, p, mem⟩)

/-- If there are schema nodes, the roots are those that they list. -/
lemma roots_of_schemaNodes (extended : d.schemaNodes ≠ []) :
    d.roots = d.schemaNodes.flatten.foldl
      (fun roots r => assignRoot r.operation r.type.text roots) [] := by
  rw [roots, if_neg (by simpa using extended)]

/-- A document without schema nodes has the root types that are called by convention. -/
lemma Consistent.mem_roots_iff (consistent : d.Consistent) (plain : d.schemaNodes = []) :
    (operation, name) ∈ d.roots ↔
      (operation, name) ∈ conventionalRoots ∧ d.DeclaresObject name := by
  rw [roots, if_pos (by simp [plain]), List.mem_filter, beq_iff_eq, consistent.declaresObject_iff]

/-- No operation has two roots in a document. -/
lemma nodup_roots (d : Document) : (d.roots.map (·.1)).Nodup := by
  by_cases plain : d.schemaNodes = []
  · rw [roots, if_pos (by simp [plain])]
    have conventional : (conventionalRoots.map (·.1)).Nodup := by decide
    exact conventional.sublist (List.filter_sublist.map _)
  · rw [roots_of_schemaNodes plain]
    exact nodup_foldl_assignRoot List.nodup_nil

end Sdl.Document

/-! ## Roots of a table -/

namespace Table

variable {table : Table} {operation : Operation} {name : String}

/-- If no operation has two roots, the root of an operation is the one that is listed. -/
lemma rootName?_eq_some_iff (nodup : (table.roots.map (·.1)).Nodup) :
    table.rootName? operation = some name ↔ (operation, name) ∈ table.roots := by
  rw [rootName?, Option.map_eq_some_iff]
  constructor
  · rintro ⟨⟨o, n⟩, found, rfl⟩
    have same : o = operation := by simpa using List.find?_some found
    exact same ▸ List.mem_of_find?_eq_some found
  · intro mem
    exact ⟨(operation, name), find?_key_eq_some nodup mem, rfl⟩

end Table

/-- The root types of a table that is built of a document. An operation has one at most. If there is
a schema definition or extension, it is the type that the last assignment gives to the operation;
else it is the conventional one, provided that the document declares this as an object type. -/
theorem Table.build_roots {d : Document} {source : Option String} {table : Table}
    (built : Table.build d source = .ok table) :
    (table.roots.map (·.1)).Nodup ∧
    (d.HasSchemaNode → ∀ operation name,
      table.rootName? operation = some name ↔
        LastAssigned operation name d.schemaNodes.flatten) ∧
    (¬d.HasSchemaNode → ∀ operation name,
      table.rootName? operation = some name ↔
        (operation, name) ∈ conventionalRoots ∧ d.DeclaresObject name) := by
  obtain ⟨consistent, rfl⟩ := Table.build_eq_ok_iff.1 built
  have roots : (Table.ofTypes d.types d.roots (d.sourceName source)).roots = d.roots := rfl
  refine ⟨d.nodup_roots, ?_, ?_⟩
  · intro extended operation name
    rw [rootName?, roots, Document.roots_of_schemaNodes (Document.schemaNodes_ne_nil_iff.2 extended),
      find?_foldl_assignRoot, lastAssigned_iff]
    simp [Function.comp_def]
  · intro plain operation name
    have none_extended : d.schemaNodes = [] := by
      by_contra ne
      exact plain (Document.schemaNodes_ne_nil_iff.1 ne)
    rw [rootName?_eq_some_iff d.nodup_roots, roots, consistent.mem_roots_iff none_extended]

/-- A schema that assigns the query twice, and declares `Mutation` without assigning it. -/
def reassignedDocument : Document where
  definitions := [
    .schema false ⟨1, 1⟩ [⟨.query, ⟨"First", ⟨1, 17⟩⟩⟩],
    .schema true ⟨2, 1⟩ [⟨.query, ⟨"Second", ⟨2, 24⟩⟩⟩],
    .type false ⟨"First", ⟨3, 6⟩⟩ (.object [] []),
    .type false ⟨"Second", ⟨4, 6⟩⟩ (.object [] []),
    .type false ⟨"Mutation", ⟨5, 6⟩⟩ (.object [] [])]
  origin := none

/-- The extension replaces the query of the definition, and there is no mutation. -/
theorem Table.build_roots_reassigned :
    ∃ table, Table.build reassignedDocument none = .ok table ∧
      reassignedDocument.HasSchemaNode ∧ reassignedDocument.DeclaresObject "Mutation" ∧
      (table.roots.map (·.1)).Nodup ∧ table.rootName? .query = some "Second" ∧
      ∀ name, table.rootName? .mutation ≠ some name := by
  have built : Table.build reassignedDocument none =
      .ok (.ofTypes reassignedDocument.types reassignedDocument.roots "<schema>") := rfl
  have schema : reassignedDocument.HasSchemaNode := ⟨_, _, _, List.mem_cons_self⟩
  have declared : reassignedDocument.DeclaresObject "Mutation" :=
    ⟨⟨"Mutation", ⟨5, 6⟩⟩, .object [] [], ⟨false, by decide⟩, rfl, rfl⟩
  obtain ⟨nodup, assigned, -⟩ := Table.build_roots built
  refine ⟨_, built, schema, declared, nodup, ?_, ?_⟩
  · refine (assigned schema .query "Second").2 ?_
    exact ⟨[⟨.query, ⟨"First", ⟨1, 17⟩⟩⟩], _, [], rfl, rfl, rfl, nofun⟩
  · intro name root
    obtain ⟨before, r, after, eq, mutation, -⟩ := (assigned schema .mutation name).1 root
    have mem : r ∈ reassignedDocument.schemaNodes.flatten := eq ▸ by simp
    have query : ∀ r ∈ reassignedDocument.schemaNodes.flatten, r.operation = .query := by decide
    exact absurd (mutation.symm.trans (query r mem)) (by decide)

/-- A document with an object type `Query` and a schema extension without root types, but without a
schema definition. -/
def extendedDocument : Document where
  definitions := [
    .schema true ⟨1, 1⟩ [],
    .type false ⟨"Query", ⟨2, 6⟩⟩ (.object [] [⟨⟨"a", ⟨2, 14⟩⟩, [], .named ⟨"Int", ⟨2, 17⟩⟩ false⟩])]
  origin := none

/-- Without a schema definition, an object type with a conventional name need not be a root type,
even if no schema extension gives a type to the operation. -/
theorem Table.build_roots_extendedOnly :
    ¬∀ (d : Document) (table : Table), Table.build d none = .ok table →
      (∀ p roots, .schema false p roots ∉ d.definitions) →
      ∀ operation name, (operation, name) ∈ conventionalRoots → d.DeclaresObject name →
        (∀ r ∈ d.schemaNodes.flatten, r.operation ≠ operation) →
        table.rootName? operation = some name := by
  intro conventional
  have declared : extendedDocument.DeclaresObject "Query" :=
    ⟨_, _, ⟨false, List.mem_cons_of_mem _ List.mem_cons_self⟩, rfl, rfl⟩
  have root := conventional extendedDocument _ rfl (by simp [extendedDocument]) .query "Query"
    (by decide) declared nofun
  exact absurd root (by decide)

end SchemaLint

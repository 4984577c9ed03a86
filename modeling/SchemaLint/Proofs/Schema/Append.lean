import Mathlib
import SchemaLint.Proofs.Schema.Merge
import SchemaLint.Proofs.Schema.Usages

/-!
# Documents with further definitions

A document may go on with definitions that have nothing to do with those before: they define and extend
other types, and use none of those before as the type of an argument. The table then has further
types, and what can be looked up in it from the types before is what could be looked up before:
`Table.growsTo_ofTypes`.
-/

namespace SchemaLint

open Sdl (Definition Document)

open Sdl.Document (declaredName?)

/-! ## Further definitions -/

/-- The document of some definitions that was read without positions. -/
def Sdl.Document.ofDefinitions (ds : List Definition) : Document := ⟨ds, none⟩

/-- The types that are defined or extended in `es` are others than those of `ds`, than built-in scalars
and than those that are root types by convention. `es` does not say what the root types are, and the
arguments in it are not of types of `ds`. -/
structure Sdl.Document.Apart (ds es : List Definition) : Prop where
  fresh : ∀ name ∈ es.filterMap declaredName?, name ∉ ds.filterMap declaredName?
  unreserved : ∀ name ∈ es.filterMap declaredName?,
    name ∉ builtinScalars ∧ name ∉ conventionalRoots.map (·.2)
  noSchema : ∀ e p roots, .schema e p roots ∉ es
  unused : ∀ e name body, .type e name body ∈ es → ∀ f ∈ body.fields, ∀ a ∈ f.arguments,
    a.type.core.1.text ∉ ds.filterMap declaredName?

namespace Sdl.Document

variable {ds es : List Definition} {name : String}

/-- A document declares the names that its definitions declare. -/
lemma mem_typeNames_ofDefinitions :
    name ∈ (ofDefinitions ds).typeNames ↔ name ∈ ds.filterMap declaredName? := by
  rw [typeNames_eq, List.mem_eraseDups]
  rfl

/-- The nodes of a type in two lists of definitions come one after the other. -/
lemma nodesOf_append (ds es : List Definition) (name : String) :
    (ofDefinitions (ds ++ es)).nodesOf name =
      (ofDefinitions ds).nodesOf name ++ (ofDefinitions es).nodesOf name := by
  rw [nodesOf, nodesOf, nodesOf, ← List.filter_append]
  exact congrArg _ List.filterMap_append

/-- A type that is not declared has no nodes. -/
lemma nodesOf_eq_nil {d : Document} (absent : name ∉ d.typeNames) : d.nodesOf name = [] := by
  refine List.filter_eq_nil_iff.2 fun n mem same => absent ?_
  rw [← (by simpa using same : n.name.text = name)]
  exact List.mem_eraseDups.2 (List.mem_map_of_mem mem)

namespace Apart

variable (apart : Apart ds es)
include apart

/-- No type is declared in both of two lists that are apart. -/
lemma not_mem_typeNames (mem : name ∈ (ofDefinitions es).typeNames) :
    name ∉ (ofDefinitions ds).typeNames := by
  rw [mem_typeNames_ofDefinitions] at mem ⊢
  exact apart.fresh name mem

/-- The types of two lists that are apart come one after the other. -/
lemma typeNames_append :
    (ofDefinitions (ds ++ es)).typeNames =
      (ofDefinitions ds).typeNames ++ (ofDefinitions es).typeNames := by
  have names : (ds ++ es).filterMap declaredName? =
      ds.filterMap declaredName? ++ es.filterMap declaredName? := List.filterMap_append
  have others : (es.filterMap declaredName?).removeAll (ds.filterMap declaredName?) =
      es.filterMap declaredName? := by
    refine List.filter_eq_self.2 fun name mem => ?_
    simpa using apart.fresh name mem
  simp only [typeNames_eq, ofDefinitions, names, List.eraseDups_append, others]

/-- The table of all definitions has the types of the first ones and then those of the others. -/
lemma types_append :
    (ofDefinitions (ds ++ es)).types = (ofDefinitions ds).types ++ (ofDefinitions es).types := by
  rw [types, types, types, apart.typeNames_append, List.filterMap_append]
  congr 1
  · refine List.filterMap_congr fun name mem => ?_
    have absent : name ∉ (ofDefinitions es).typeNames := fun mem' => apart.not_mem_typeNames mem' mem
    rw [nodesOf_append, nodesOf_eq_nil absent, List.append_nil]
  · refine List.filterMap_congr fun name mem => ?_
    rw [nodesOf_append, nodesOf_eq_nil (apart.not_mem_typeNames mem), List.nil_append]

/-- A type that is not declared in the second list is that of the first. -/
lemma find?_types_append (absent : name ∉ (ofDefinitions es).typeNames) :
    (ofDefinitions (ds ++ es)).types.find? (·.name == name) =
      (ofDefinitions ds).types.find? (·.name == name) := by
  have none_found : (ofDefinitions es).types.find? (·.name == name) = none := by
    refine List.find?_eq_none.2 fun t mem same => absent ?_
    rw [← map_name_types, ← (by simpa using same : t.name = name)]
    exact List.mem_map_of_mem mem
  rw [apart.types_append, List.find?_append, none_found, Option.or_none]

/-- The second list declares none of the conventional root types. -/
lemma not_mem_typeNames_of_conventional (mem : name ∈ conventionalRoots.map (·.2)) :
    name ∉ (ofDefinitions es).typeNames := by
  rw [mem_typeNames_ofDefinitions]
  exact fun mem' => (apart.unreserved name mem').2 mem

/-- The second list has no schema nodes. -/
lemma schemaNodes_append : (ofDefinitions (ds ++ es)).schemaNodes = (ofDefinitions ds).schemaNodes := by
  have none : (ofDefinitions es).schemaNodes = [] := by
    refine List.eq_nil_iff_forall_not_mem.2 fun roots mem => ?_
    obtain ⟨e, p, schema⟩ := mem_schemaNodes.1 mem
    exact apart.noSchema e p roots schema
  have append : (ofDefinitions (ds ++ es)).schemaNodes =
      (ofDefinitions ds).schemaNodes ++ (ofDefinitions es).schemaNodes := List.filterMap_append
  rw [append, none, List.append_nil]

/-- The roots are those of the first list. -/
lemma roots_append : (ofDefinitions (ds ++ es)).roots = (ofDefinitions ds).roots := by
  rw [roots, roots, apart.schemaNodes_append]
  split
  · refine List.filter_congr fun root mem => ?_
    rw [apart.find?_types_append
      (apart.not_mem_typeNames_of_conventional (List.mem_map_of_mem mem))]
  · rfl

/-- The arguments of the other types are not of the first ones. -/
lemma type_not_mem_of_mem_arguments {t : TypeDef} (mem : t ∈ (ofDefinitions es).types) {a : Argument}
    (memA : a ∈ t.arguments) : a.type.name ∉ (ofDefinitions ds).typeNames := by
  obtain ⟨name, first, rest, nodes, rfl⟩ := exists_nodes_of_mem_types mem
  obtain ⟨f, memF, memA⟩ := List.mem_flatMap.1 memA
  rw [fields_ofNodes nodes] at memF
  obtain ⟨node, memNode, rfl⟩ := List.mem_map.1 memF
  obtain ⟨argument, memArgument, rfl⟩ := List.mem_map.1 memA
  obtain ⟨i, body, ⟨e, definition⟩, -, memNode⟩ := mem_flatMap_bodiesOf.1 memNode
  rw [mem_typeNames_ofDefinitions, Argument.ofNode, TypeExpr.toRef_name]
  exact apart.unused e i body definition node memNode argument memArgument

end Apart

end Sdl.Document

/-! ## Tables with further types -/

/-- The table `table'` has further types, `more`, and nothing else that could be noticed from the types
of `table`. -/
structure Table.GrowsTo (table table' : Table) (more : List TypeDef) : Prop where
  types : table'.types = table.types ++ more
  roots : table'.roots = table.roots
  source : table'.source = table.source
  mutationResults : table'.mutationResults = table.mutationResults
  fresh : ∀ t ∈ more, ¬table.declares t.name ∧ t.name ∉ builtinScalars
  usages : ∀ name, table.declares name → table'.usagesOf name = table.usagesOf name

namespace Table

open Sdl.Document (Apart ofDefinitions)

variable {ds es : List Definition}

/-- The fields of the root type of mutations are looked for in a part of a table that does not change. -/
lemma mutationResults_append (apart : Apart ds es) (consistent : (ofDefinitions ds).Consistent)
    (source : String) :
    (ofTypes (ofDefinitions (ds ++ es)).types (ofDefinitions (ds ++ es)).roots source).mutationResults =
      (ofTypes (ofDefinitions ds).types (ofDefinitions ds).roots source).mutationResults := by
  have wf := wellFormed_of_consistent consistent source
  have root (usages usages' : UsageIndex) :
      (⟨(ofDefinitions (ds ++ es)).types, (ofDefinitions (ds ++ es)).roots, source, usages', []⟩ :
        Table).root? .mutation =
      (⟨(ofDefinitions ds).types, (ofDefinitions ds).roots, source, usages, []⟩ :
        Table).root? .mutation := by
    rw [root?, root?, rootName?, rootName?, apart.roots_append]
    cases found : (ofDefinitions ds).roots.find? (·.1 == .mutation) with
    | none => rfl
    | some r =>
      refine apart.find?_types_append fun mem => ?_
      have listed : r.2 ∈ (ofDefinitions ds).roots.map (·.2) :=
        List.mem_map_of_mem (List.mem_of_find?_eq_some found)
      rcases wf.resolved r.2 (List.mem_append_right _ listed) with declared | builtin
      · rw [declares_iff] at declared
        exact apart.not_mem_typeNames mem (Sdl.Document.map_name_types _ ▸ declared)
      · rw [Sdl.Document.mem_typeNames_ofDefinitions] at mem
        exact (apart.unreserved _ mem).1 builtin
  rw [ofTypes, ofTypes]
  dsimp only
  rw [root (.ofTypes (ofDefinitions ds).types)]

/-- The table of a consistent document grows if the document goes on with other types. -/
lemma growsTo_ofTypes (apart : Apart ds es) (consistent : (ofDefinitions ds).Consistent)
    (source : String) :
    (ofTypes (ofDefinitions ds).types (ofDefinitions ds).roots source).GrowsTo
      (ofTypes (ofDefinitions (ds ++ es)).types (ofDefinitions (ds ++ es)).roots source)
      (ofDefinitions es).types where
  types := apart.types_append
  roots := apart.roots_append
  source := rfl
  mutationResults := mutationResults_append apart consistent source
  fresh t mem := by
    have listed : t.name ∈ (ofDefinitions es).typeNames :=
      Sdl.Document.map_name_types _ ▸ List.mem_map_of_mem mem
    refine ⟨fun declared => ?_, fun builtin => ?_⟩
    · rw [declares_iff] at declared
      exact apart.not_mem_typeNames listed (Sdl.Document.map_name_types _ ▸ declared)
    · rw [Sdl.Document.mem_typeNames_ofDefinitions] at listed
      exact (apart.unreserved _ listed).1 builtin
  usages name declared := by
    have others : ((ofDefinitions es).types.flatMap (·.arguments)).filter (·.type.name == name) =
        [] := by
      refine List.filter_eq_nil_iff.2 fun a mem same => ?_
      obtain ⟨t, memT, memA⟩ := List.mem_flatMap.1 mem
      refine apart.type_not_mem_of_mem_arguments memT memA ?_
      rw [(by simpa using same : a.type.name = name), ← Sdl.Document.map_name_types]
      exact declares_iff.1 declared
    rw [usagesOf_ofTypes, usagesOf_ofTypes, apart.types_append, List.flatMap_append,
      List.filter_append, others, List.append_nil]

/-- The table of a document grows when definitions that are apart come behind. -/
lemma growsTo_of_build (apart : Apart ds es) {source : Option String} {table table' : Table}
    (built : build (ofDefinitions ds) source = .ok table)
    (built' : build (ofDefinitions (ds ++ es)) source = .ok table') :
    table.GrowsTo table' (ofDefinitions es).types := by
  obtain ⟨consistent, rfl⟩ := build_eq_ok_iff.1 built
  obtain ⟨-, rfl⟩ := build_eq_ok_iff.1 built'
  exact growsTo_ofTypes apart consistent _

/-- The table of some definitions declares the types that these define or extend. -/
lemma declares_of_build {source : Option String} {table : Table}
    (built : build (ofDefinitions ds) source = .ok table) (name : String) :
    table.declares name = (ds.filterMap declaredName?).contains name := by
  obtain ⟨-, rfl⟩ := build_eq_ok_iff.1 built
  rw [Bool.eq_iff_iff, List.contains_iff_mem, ← Sdl.Document.mem_typeNames_ofDefinitions,
    ← Sdl.Document.map_name_types, declares_iff]
  rfl

/-! ## Look-ups -/

variable {table table' : Table} {more : List TypeDef}

/-- What a name means that the table refers to does not change. -/
lemma GrowsTo.get?_eq (grows : table.GrowsTo table' more) {name : String}
    (known : table.declares name ∨ name ∈ builtinScalars) : table'.get? name = table.get? name := by
  have absent : more.find? (·.name == name) = none := by
    refine List.find?_eq_none.2 fun t mem same => ?_
    obtain ⟨undeclared, notBuiltin⟩ := grows.fresh t mem
    rw [(by simpa using same : t.name = name)] at undeclared notBuiltin
    exact known.elim undeclared notBuiltin
  rw [get?, get?, grows.types, List.find?_append, absent, Option.or_none]

/-- In particular the types of fields do not change. -/
lemma GrowsTo.get?_type_eq (grows : table.GrowsTo table' more) (wf : table.WellFormed) {t : TypeDef}
    (mem : t ∈ table.types) {f : Field} (memF : f ∈ t.fields) :
    table'.get? f.type.name = table.get? f.type.name := by
  have referenced : f.type.name ∈ t.references :=
    List.mem_append_left _ (List.mem_append_left _
      (List.mem_flatMap.2 ⟨f, memF, List.mem_cons_self⟩))
  exact grows.get?_eq (wf.resolved _ (List.mem_append_left _
    (List.mem_flatMap.2 ⟨t, mem, referenced⟩)))

/-- The type of a field has the same kind when a table grows. -/
lemma GrowsTo.kindOf?_type_eq (grows : table.GrowsTo table' more) (wf : table.WellFormed)
    {t : TypeDef} (mem : t ∈ table.types) {f : Field} (memF : f ∈ t.fields) :
    table'.kindOf? f.type.name = table.kindOf? f.type.name := by
  rw [kindOf?, kindOf?, grows.get?_type_eq wf mem memF]

end Table

end SchemaLint

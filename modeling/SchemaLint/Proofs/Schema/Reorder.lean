import Mathlib
import SchemaLint.Proofs.Rule.Reads
import SchemaLint.Proofs.Schema.WellFormed

/-!
# Documents in another order

What the order of the definitions of a document does to its table. As long as the definitions and
extensions of each type stay in order, and those of the schema, the document makes a schema or not as
before, and the types of its table are the same, in another order.
-/

namespace SchemaLint

open Sdl (Document Ident TypeBody)

namespace Sdl.Document

variable {d d' : Document}

/-- The definitions of `d'` are those of `d` in another order, in which the definitions and
extensions of each type are in the same order, and those of the schema. -/
structure Reorders (d d' : Document) : Prop where
  definitions : d'.definitions.Perm d.definitions
  nodesOf : ∀ name, d'.nodesOf name = d.nodesOf name
  schemaNodes : d'.schemaNodes = d.schemaNodes
  origin : d'.origin = d.origin

namespace Reorders

/-- If a document reorders another, this reorders it. -/
lemma symm (reorders : d.Reorders d') : d'.Reorders d :=
  ⟨reorders.definitions.symm, fun name => (reorders.nodesOf name).symm,
    reorders.schemaNodes.symm, reorders.origin.symm⟩

variable (reorders : d.Reorders d')
include reorders

/-! ## Consistency -/

/-- Documents that reorder each other have the same bodies. -/
lemma hasBody {i : Ident} {body : TypeBody} (has : d'.HasBody i body) : d.HasBody i body := by
  obtain ⟨e, mem⟩ := has
  exact ⟨e, reorders.definitions.mem_iff.1 mem⟩

/-- The bodies of each type are in the same order. -/
lemma bodiesOf_eq (name : String) : d'.bodiesOf name = d.bodiesOf name := by
  rw [bodiesOf_eq_map, bodiesOf_eq_map, reorders.nodesOf]

/-- They declare the same types. -/
lemma declares {name : String} (declared : d'.Declares name) : d.Declares name := by
  obtain ⟨i, body, has, same⟩ := declared
  exact ⟨i, body, reorders.hasBody has, same⟩

/-- They refer to the same types. -/
lemma refers {name referencedFrom : String} {position : Position}
    (refers : d'.Refers name referencedFrom position) : d.Refers name referencedFrom position := by
  cases refers with
  | fieldType has memF => exact .fieldType (reorders.hasBody has) memF
  | argumentType has memF memA => exact .argumentType (reorders.hasBody has) memF memA
  | member has mem => exact .member (reorders.hasBody has) mem
  | interface has mem => exact .interface (reorders.hasBody has) mem
  | directiveArgument definition mem =>
    exact .directiveArgument (reorders.definitions.mem_iff.1 definition) mem
  | root schema mem => exact .root (reorders.definitions.mem_iff.1 schema) mem

/-- A document in another order makes a schema if the document does. -/
lemma consistent (consistent : d.Consistent) : d'.Consistent where
  definedOnce := (reorders.definitions.filterMap definedName?).nodup_iff.2 consistent.definedOnce
  oneKind first second := consistent.oneKind (reorders.hasBody first) (reorders.hasBody second)
  fieldsDistinct name := by
    rw [fieldsOf, reorders.bodiesOf_eq]
    exact consistent.fieldsDistinct name
  valuesDistinct name := by
    rw [valuesOf, reorders.bodiesOf_eq]
    exact consistent.valuesDistinct name
  argumentsDistinct has := consistent.argumentsDistinct (reorders.hasBody has)
  resolved refers :=
    (consistent.resolved (reorders.refers refers)).imp_left reorders.symm.declares

/-! ## Tables -/

/-- They have the same types, in some order. -/
lemma types_perm : d'.types.Perm d.types := by
  have names : d'.typeNames.Perm d.typeNames := by
    refine (List.perm_ext_iff_of_nodup (nodup_eraseDups _) (nodup_eraseDups _)).2 fun name => ?_
    exact mem_typeNames.trans (.trans ⟨reorders.declares, reorders.symm.declares⟩
      mem_typeNames.symm)
  simp only [types, reorders.nodesOf]
  exact names.filterMap _

/-- They have the same type under a name. -/
lemma find?_types (name : String) :
    d'.types.find? (·.name == name) = d.types.find? (·.name == name) := by
  refine find?_key_of_perm reorders.types_perm ?_ name
  rw [map_name_types]
  exact nodup_eraseDups _

/-- They have the same roots. -/
lemma roots_eq : d'.roots = d.roots := by
  simp only [roots, reorders.schemaNodes, reorders.find?_types]

/-- They have the same source. -/
lemma sourceName_eq (source : Option String) : d'.sourceName source = d.sourceName source := by
  rw [sourceName, sourceName, reorders.origin]

/-- What is looked up in the tables is the same. -/
lemma looksLike (source : String) :
    (Table.ofTypes d'.types d'.roots source).LooksLike (Table.ofTypes d.types d.roots source) := by
  -- also before the results of mutations are known
  have get? : ∀ usages usages' results,
      (⟨d'.types, d.roots, source, usages', results⟩ : Table).get? =
        (⟨d.types, d.roots, source, usages, results⟩ : Table).get? :=
    fun _ _ _ => funext reorders.find?_types
  refine ⟨funext reorders.find?_types, reorders.roots_eq, ?_⟩
  simp only [Table.ofTypes, Table.root?, Table.rootName?, reorders.roots_eq,
    get? (.ofTypes d.types) (.ofTypes d'.types)]

/-- The tables have the same entities, in another order. -/
lemma entities_perm (source : String) :
    (Table.ofTypes d'.types d'.roots source).entities.Perm
      (Table.ofTypes d.types d.roots source).entities :=
  reorders.types_perm.flatMap_right _

end Reorders

end Sdl.Document

end SchemaLint

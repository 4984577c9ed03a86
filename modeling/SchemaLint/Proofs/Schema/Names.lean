import Mathlib
import SchemaLint.Proofs.Schema.Acceptance
import SchemaLint.Proofs.Schema.WellFormed
import SchemaLint.Proofs.Sdl.Names

/-!
# Names of a table

A table takes the names of its types and their parts from a document. So the entities of a table that
is built of a document with names have names: `Table.named_of_build`.
-/

namespace SchemaLint

open Sdl (Document IsName)

/-- The entity and, if it is an enum, its values have names. -/
def Entity.Named : Entity → Prop
  | type t => IsName t.name ∧ ∀ v ∈ t.values, IsName v.name
  | field f => IsName f.name
  | argument a => IsName a.name

/-- An entity of a named document has a name. -/
lemma Entity.Named.name {e : Entity} (named : e.Named) : IsName e.name := by
  cases e with
  | type t => exact named.1
  | field f => exact named
  | argument a => exact named

variable {d : Document} {name : String} {first : TypeNode} {rest : List TypeNode}

/-- The entities of a type of a named document have names. -/
lemma Sdl.Document.Named.named_ofNodes (named : d.Named) (nodes : d.nodesOf name = first :: rest) :
    ∀ e ∈ (TypeDef.ofNodes name first rest).entities, e.Named := by
  have body_named {i body} (has : d.HasBody i body) : body.Named := by
    obtain ⟨e, mem⟩ := has
    exact (named _ mem).2
  refine List.forall_mem_cons.2 ⟨⟨?_, ?_⟩, ?_⟩
  · have mem : first ∈ d.nodesOf name := nodes ▸ List.mem_cons_self
    obtain ⟨mem, same⟩ := List.mem_filter.1 mem
    have called : IsName first.name.text := (named _ (Document.mem_typeNodes.1 mem)).1
    rwa [beq_iff_eq.1 same] at called
  · rw [Document.values_ofNodes nodes, List.forall_mem_map]
    intro v mem
    obtain ⟨i, body, has, -, mem⟩ := Document.mem_flatMap_bodiesOf.1 mem
    exact (body_named has).values v mem
  · rw [Document.fields_ofNodes nodes]
    intro e mem
    obtain ⟨f, memF, mem⟩ := List.mem_flatMap.1 mem
    obtain ⟨node, memNode, rfl⟩ := List.mem_map.1 memF
    obtain ⟨i, body, has, -, memNode⟩ := Document.mem_flatMap_bodiesOf.1 memNode
    obtain ⟨called, arguments⟩ := (body_named has).fields node memNode
    rcases List.mem_cons.1 mem with rfl | mem
    · exact called
    · obtain ⟨a, memA, rfl⟩ := List.mem_map.1 mem
      obtain ⟨nodeA, memNodeA, rfl⟩ := List.mem_map.1 memA
      exact arguments nodeA memNodeA

/-- The entities of a table that is built of a document with names have names. -/
lemma Table.named_of_build {source : Option String} {table : Table} (named : d.Named)
    (built : Table.build d source = .ok table) : ∀ e ∈ table.entities, e.Named := by
  obtain ⟨-, rfl⟩ := build_eq_ok_iff.1 built
  intro e mem
  obtain ⟨t, memT, mem⟩ := List.mem_flatMap.1 mem
  obtain ⟨name, first, rest, nodes, rfl⟩ := Document.exists_nodes_of_mem_types memT
  exact named.named_ofNodes nodes e mem

end SchemaLint

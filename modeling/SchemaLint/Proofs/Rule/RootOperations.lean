import Mathlib
import SchemaLint.Proofs.Lint.Run
import SchemaLint.Proofs.Rule.RootFields
import SchemaLint.Proofs.Schema.Roots

/-!
# Operations that a root type serves

A table looks its roots up in three ways: for the type of an operation, for the operation that a field
counts for, and for a type to be a root at all. The three agree wherever an operation has a root type
of its own. But one type may serve several operations, and its fields count for one of them only, the
first in the order of the table. So the rules for the others are put to no field:
`Rule.servesOperation_iff`.
-/

namespace SchemaLint

open Sdl (Document Operation)

/-! ## Look-ups -/

namespace Table

variable {table : Table} {operation : Operation} {name : String} {f : Field}

/-- Of the operations whose root type has the name, the operation is the first. -/
def ServesFirst (table : Table) (operation : Operation) (name : String) : Prop :=
  ∃ before after, table.roots = before ++ (operation, name) :: after ∧ ∀ r ∈ before, r.2 ≠ name

/-- A field serves the first operation of which the type that it belongs to is the root. -/
lemma operationOf?_eq_some_iff :
    table.operationOf? f = some operation ↔ table.ServesFirst operation f.owner := by
  rw [operationOf?, Option.map_eq_some_iff]
  simp only [List.find?_eq_some_iff_append, beq_iff_eq, Bool.not_eq_true', beq_eq_false_iff_ne]
  constructor
  · rintro ⟨⟨o, owner⟩, ⟨rfl, before, after, eq, others⟩, rfl⟩
    exact ⟨before, after, eq, others⟩
  · rintro ⟨before, after, eq, others⟩
    exact ⟨(operation, f.owner), ⟨rfl, before, after, eq, others⟩, rfl⟩

/-- A field counts for an operation just if its owner is a root. -/
lemma isSome_operationOf?_iff : (table.operationOf? f).isSome ↔ table.isRoot f.owner := by
  rw [operationOf?, Option.isSome_map, List.find?_isSome, isRoot, List.any_eq_true]

section
variable (nodup : (table.roots.map (·.1)).Nodup)
include nodup

/-- A type that serves an operation first is its root. -/
lemma ServesFirst.rootName?_eq (first : table.ServesFirst operation name) :
    table.rootName? operation = some name := by
  obtain ⟨before, after, eq, -⟩ := first
  rw [rootName?_eq_some_iff nodup, eq]
  exact List.mem_append_right _ List.mem_cons_self

/-- A root type of one operation serves it first. -/
lemma servesFirst_of_alone (root : table.rootName? operation = some name)
    (alone : ∀ o, table.rootName? o = some name → o = operation) :
    table.ServesFirst operation name := by
  have mem := (rootName?_eq_some_iff nodup).1 root
  obtain ⟨before, after, eq⟩ := List.append_of_mem mem
  refine ⟨before, after, eq, ?_⟩
  rintro ⟨o, n⟩ earlier rfl
  -- an earlier root of the name would be that of the same operation
  have same : o = operation := by
    refine alone o ((rootName?_eq_some_iff nodup).2 ?_)
    rw [eq]
    exact List.mem_append_left _ earlier
  rw [eq, List.map_append, List.nodup_append] at nodup
  exact nodup.2.2 o (List.mem_map_of_mem earlier) operation List.mem_cons_self same

/-- A field belongs to a type that serves an operation first if this is the root of the operation
and does. -/
lemma servesFirst_owner_iff (root : table.rootName? operation = some name) :
    table.ServesFirst operation f.owner ↔ f.owner = name ∧ table.ServesFirst operation name := by
  constructor
  · intro first
    have same := first.rootName?_eq nodup
    rw [root] at same
    cases same
    exact ⟨rfl, first⟩
  · rintro ⟨rfl, first⟩
    exact first

end

end Table

/-! ## Rules -/

namespace Rule

variable {context : Context} {operation : Operation} {f : Field}

/-- The test for fields of an operation finds those of types that serve it first. -/
lemma servesOperation_iff_servesFirst :
    servesOperation operation context f ↔ context.table.ServesFirst operation f.owner := by
  rw [servesOperation, beq_iff_eq, Table.operationOf?_eq_some_iff]

/-- A run puts the rule about some fields of a root type to those that count for its operation. -/
lemma mem_asked_onRootFields_iff {rules : List Rule} {id description : String}
    {applies : Field → Bool} {check : Context → Field → Findings}
    (mem : onRootFields id description operation applies check ∈ rules) :
    onRootFields id description operation applies check ∈
        (Dispatch.ofRules rules).asked context (.field f) ↔
      servesOperation operation context f ∧ applies f := by
  have targeted : (onRootFields id description operation applies check).targets.contains
      (Entity.field f).kind := rfl
  rw [Dispatch.asked_ofRules, List.mem_filter, and_iff_right mem, targeted, Bool.true_and,
    appliesTo_onRootFields_iff, servesOperation, beq_iff_eq]

/-- Which fields count for an operation, in a table that is built of a document. A field counts for
some operation just if its owner is a root type. For an operation those fields count that belong to its
root type, provided that it is the first operation with this type, as it is if no other has the same.
For an operation without a root type no field counts. A run puts the rules for the operation to the
fields that count for it, and to no others. -/
theorem servesOperation_iff {d : Document} {source : Option String} (context : Context)
    (built : Table.build d source = .ok context.table) :
    (∀ f, (context.table.operationOf? f).isSome ↔ context.table.isRoot f.owner) ∧
    (∀ operation name, context.table.rootName? operation = some name →
      (∀ f, servesOperation operation context f ↔
        f.owner = name ∧ context.table.ServesFirst operation name) ∧
      ((∀ o, context.table.rootName? o = some name → o = operation) →
        ∀ f, servesOperation operation context f ↔ f.owner = name)) ∧
    (∀ operation, context.table.rootName? operation = none →
      ∀ f, servesOperation operation context f = false) ∧
    ∀ rules id description operation applies check,
      onRootFields id description operation applies check ∈ rules →
      ∀ f, onRootFields id description operation applies check ∈
          (Dispatch.ofRules rules).asked context (.field f) ↔
        servesOperation operation context f ∧ applies f := by
  have nodup : (context.table.roots.map (·.1)).Nodup := by
    obtain ⟨-, eq⟩ := Table.build_eq_ok_iff.1 built
    rw [eq]
    exact d.nodup_roots
  refine ⟨fun f => Table.isSome_operationOf?_iff, ?_, ?_, ?_⟩
  · intro operation name root
    have serves (f : Field) : servesOperation operation context f ↔
        f.owner = name ∧ context.table.ServesFirst operation name := by
      rw [servesOperation_iff_servesFirst, Table.servesFirst_owner_iff nodup root]
    refine ⟨serves, fun alone f => ?_⟩
    rw [serves, and_iff_left (Table.servesFirst_of_alone nodup root alone)]
  · intro operation rootless f
    rw [← Bool.not_eq_true, servesOperation_iff_servesFirst]
    intro first
    have root := first.rootName?_eq nodup
    rw [rootless] at root
    cases root
  · intro rules id description operation applies check mem f
    exact mem_asked_onRootFields_iff mem

/-- A document in which queries and mutations have one root type, and subscriptions another. -/
def sharingDocument : Document where
  definitions := [
    .schema false ⟨1, 1⟩ [⟨.query, ⟨"R", ⟨1, 17⟩⟩⟩, ⟨.mutation, ⟨"R", ⟨1, 29⟩⟩⟩,
      ⟨.subscription, ⟨"S", ⟨1, 45⟩⟩⟩],
    .type false ⟨"R", ⟨2, 6⟩⟩ (.object []
      [⟨⟨"deleteUser", ⟨2, 10⟩⟩, [], .named ⟨"Int", ⟨2, 22⟩⟩ false⟩]),
    .type false ⟨"S", ⟨3, 6⟩⟩ (.object []
      [⟨⟨"ticks", ⟨3, 10⟩⟩, [], .named ⟨"Int", ⟨3, 17⟩⟩ false⟩])]
  origin := none

/-- What a rule looks at by default in the schema of the document. -/
def sharingContext : Context where
  table := .ofTypes sharingDocument.types sharingDocument.roots "<schema>"
  options := .default
  judgement := .ofNames []

/-- The fields of the shared type count as queries, and no rule about mutations is put to them; those
of the other type count as subscriptions. -/
theorem servesOperation_iff_sharing :
    let deleteUser : Field := ⟨"deleteUser", "R", ⟨"Int", true, 0, none, "Int"⟩, [], ⟨2, 10⟩⟩
    let ticks : Field := ⟨"ticks", "S", ⟨"Int", true, 0, none, "Int"⟩, [], ⟨3, 10⟩⟩
    Table.build sharingDocument none = .ok sharingContext.table ∧
    sharingContext.table.rootName? .query = some "R" ∧
    sharingContext.table.rootName? .mutation = some "R" ∧
    servesOperation .query sharingContext deleteUser ∧
    (deleteMutationShape ∈ Catalog.standardRules ∧ deleteMutationShape ∉
      (Dispatch.ofRules Catalog.standardRules).asked sharingContext (.field deleteUser)) ∧
    (∀ o, sharingContext.table.rootName? o = some "S" → o = .subscription) ∧
    servesOperation .subscription sharingContext ticks := by
  intro deleteUser ticks
  have built : Table.build sharingDocument none = .ok sharingContext.table := rfl
  have query : sharingContext.table.rootName? .query = some "R" := rfl
  have subscription : sharingContext.table.rootName? .subscription = some "S" := rfl
  have alone : ∀ o, sharingContext.table.rootName? o = some "S" → o = .subscription := by
    rintro (_ | _ | _) root
    · exact absurd root (by decide)
    · exact absurd root (by decide)
    · rfl
  have standard : deleteMutationShape ∈ Catalog.standardRules := by simp [Catalog.standardRules]
  obtain ⟨-, serves, -, asked⟩ := servesOperation_iff sharingContext built
  refine ⟨built, query, rfl, ?_, ⟨standard, ?_⟩, alone, ?_⟩
  · exact ((serves .query "R" query).1 deleteUser).2 ⟨rfl, [], _, rfl, nofun⟩
  · intro mem
    have mutation := ((asked _ _ _ _ _ _ standard deleteUser).1 mem).1
    exact absurd mutation (by decide)
  · exact ((serves .subscription "S" subscription).2 alone ticks).2 rfl

/-- Not every field of the root type of mutations counts as one: the type may be the root type of
queries too, and then it serves these. -/
theorem servesOperation_shared_fails :
    ¬∀ (d : Document) (context : Context) (operation : Operation) (name : String) (f : Field),
      Table.build d none = .ok context.table →
      context.table.rootName? operation = some name →
      (servesOperation operation context f ↔ f.owner = name) := by
  intro counts
  have mutation := counts sharingDocument sharingContext .mutation "R"
    ⟨"deleteUser", "R", ⟨"Int", true, 0, none, "Int"⟩, [], ⟨2, 10⟩⟩ rfl rfl
  exact absurd (mutation.2 rfl) (by decide)

end Rule

end SchemaLint

import SchemaLint.Catalog.Basic
import SchemaLint.Suppression.Basic

/-!
# Runs

A run asks the rules about the entities of a table. Entities come in their order, and each is put to
the rules for its kind in the order of the catalog. Severities that the options override are replaced
before suppressions are applied.

Several workers may share the entities: each takes every so-many-th. What they have finished is put in
the order of the entities, so the number of workers does not show.
-/

namespace SchemaLint

namespace Lint

/-- What one of several workers makes of its share of numbered items. -/
def finishedBy {α β : Type} (f : α → β) (items : List (α × Nat)) (workers worker : Nat) :
    List (β × Nat) :=
  (items.filter (·.2 % workers == worker)).map fun item => (f item.1, item.2)

/-- `f` of each item, by several workers. There are no more workers than items. -/
def mapShared {α β : Type} (workers : Nat) (f : α → β) (xs : List α) : List β :=
  let workers := min workers xs.length
  let finished := (List.range workers).flatMap (finishedBy f xs.zipIdx workers)
  (finished.mergeSort (·.2 ≤ ·.2)).map (·.1)

end Lint

/-- The rules of a run by the kind of entity that they look at. -/
structure Dispatch where
  types : List Rule
  fields : List Rule
  arguments : List Rule

namespace Dispatch

/-- The dispatch of some rules. A rule may be under several kinds. -/
def ofRules (rules : List Rule) : Dispatch :=
  let under (k : EntityKind) := rules.filter (·.targets.contains k)
  ⟨under .type, under .field, under .argument⟩

/-- The rules for a kind of entity. -/
def get (d : Dispatch) : EntityKind → List Rule
  | .type => d.types
  | .field => d.fields
  | .argument => d.arguments

/-- The rules that an entity is put to. -/
def asked (d : Dispatch) (context : Context) (e : Entity) : List Rule :=
  (d.get e.kind).filter (·.appliesTo context e)

/-- What the rules find about an entity. -/
def check (d : Dispatch) (context : Context) (e : Entity) : List Diagnostic :=
  (d.asked context e).flatMap (·.diagnostics context e)

end Dispatch

/-- What `f` makes of the entities of the table. With more than one entity they may be shared among
several workers. -/
def Context.overEntities {α : Type} (context : Context) (f : Entity → α) : List α :=
  let entities := context.table.entities
  if 1 < context.options.jobs ∧ 1 < entities.length then
    Lint.mapShared context.options.jobs f entities
  else entities.map f

/-- The diagnostic with the severity that the options give to its rule, if they give one. -/
def Options.override (o : Options) (d : Diagnostic) : Diagnostic :=
  match o.severities.get? d.rule with
  | some severity => d.withSeverity severity
  | none => d

/-- What came of a run: the diagnostics that no suppression silences, in the order in which they were
found, the number of the others, the number of entities and the ids of the rules. -/
structure Run where
  kept : List Diagnostic
  suppressed : Nat
  entities : Nat
  rules : List String
  deriving DecidableEq, Repr

namespace Run

/-- Runs some rules over a table. -/
def ofRules (rules : List Rule) (context : Context) (suppressions : Suppressions) : Run :=
  let batches := context.overEntities ((Dispatch.ofRules rules).check context)
  let found := batches.flatten.map context.options.override
  let (kept, suppressed) := suppressions.filter found
  ⟨kept, suppressed, context.table.entities.length, rules.map (·.id)⟩

/-- How many diagnostics of a rule were kept. -/
def count (r : Run) (id : String) : Nat := r.kept.countP (·.rule == id)

/-- The rules of which diagnostics were kept, with their number. -/
def counts (r : Run) : List (String × Nat) :=
  ((r.kept.map (·.rule)).eraseDups).map fun id => (id, r.count id)

/-- What is told about a run that took the time `elapsed`. -/
def summary (r : Run) (elapsed : String) : String :=
  "\n".intercalate
    ((s!"Rule run complete: {r.rules.length} rules over {r.entities} entities " ++
      s!"in {elapsed}s ({r.suppressed} suppressed)") ::
    r.rules.map fun id => s!"  {id}: {r.count id}")

end Run
end SchemaLint

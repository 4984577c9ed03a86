import Mathlib
import SchemaLint.Lint.Basic
import SchemaLint.Proofs.Catalog.Rules
import SchemaLint.Proofs.Distinct
import SchemaLint.Proofs.Lint.Workers

/-!
# Runs as a plain loop

A run sorts the rules by the kinds of entities that they look at and may share the entities among
workers. What it finds is nevertheless what the plain loop finds that goes through the entities of
the table and, for each, through the rules of the catalog: `Linter.run_eq_plainLoop`.
-/

namespace SchemaLint

/-! ## The plain loop -/

namespace Linter

/-- The rule is put to the entity: neither the catalog nor the options disable it, it looks at
entities of this kind, and it applies. -/
def puts (l : Linter) (table : Table) (e : Entity) (rule : Rule) : Bool :=
  !l.catalog.disabled.contains rule.id && !l.options.disabled.contains rule.id &&
    rule.targets.contains e.kind && rule.appliesTo (l.context table) e

/-- What a rule finds about an entity, with the severity that the options give to the rule. -/
def findings (l : Linter) (table : Table) (e : Entity) (rule : Rule) : List Diagnostic :=
  (rule.diagnostics (l.context table) e).map fun d =>
    { d with severity := (l.options.severities.get? rule.id).getD d.severity }

/-- What is found by going through the entities and, for each, through the rules. -/
def plainLoop (l : Linter) (table : Table) : List Diagnostic :=
  table.entities.flatMap fun e =>
    l.catalog.rules.flatMap fun rule => if l.puts table e rule then l.findings table e rule else []

end Linter

/-! ## Dispatch -/

namespace Dispatch

/-- The rules that are asked about a kind of entities are those that look at it, in order. -/
lemma get_ofRules (rules : List Rule) (k : EntityKind) :
    (ofRules rules).get k = rules.filter (·.targets.contains k) := by
  cases k <;> rfl

/-- The rules that are asked about an entity are those that look at its kind and apply to it. -/
lemma asked_ofRules (rules : List Rule) (context : Context) (e : Entity) :
    (ofRules rules).asked context e =
      rules.filter fun rule => rule.targets.contains e.kind && rule.appliesTo context e := by
  rw [asked, get_ofRules, List.filter_filter]
  simp only [Bool.and_comm]

end Dispatch

/-- Sharing the entities among workers does not show. -/
lemma Context.overEntities_eq_map {α : Type} (context : Context) (f : Entity → α) :
    context.overEntities f = context.table.entities.map f := by
  unfold overEntities
  dsimp only
  split
  · rename_i several
    exact Lint.mapShared_eq_map (Nat.lt_trans Nat.zero_lt_one several.1) f _
  · rfl

/-! ## Runs -/

/-- What comes of the members of a list that count is nothing for those that do not. -/
lemma flatMap_filter {α β : Type} (p : α → Bool) (f : α → List β) (xs : List α) :
    (xs.filter p).flatMap f = xs.flatMap fun x => if p x then f x else [] := by
  induction xs with
  | nil => rfl
  | cons x xs ih =>
    rw [List.filter_cons, List.flatMap_cons]
    split
    · rw [List.flatMap_cons, ih]
    · rw [ih, List.nil_append]

/-- A diagnostic is overridden by the severity of its rule. -/
lemma Options.override_eq (o : Options) (d : Diagnostic) :
    o.override d = { d with severity := (o.severities.get? d.rule).getD d.severity } := by
  unfold override
  cases o.severities.get? d.rule <;> rfl

/-- The diagnostics of a rule bear its id. -/
lemma Rule.rule_of_mem_diagnostics {rule : Rule} {context : Context} {e : Entity} {d : Diagnostic}
    (mem : d ∈ rule.diagnostics context e) : d.rule = rule.id := by
  obtain ⟨f, -, rfl⟩ := List.mem_map.1 mem
  rfl

/-- What a rule says about an entity, with the severities of the linter. -/
lemma Linter.map_override_diagnostics (l : Linter) (table : Table) (e : Entity) (rule : Rule) :
    (rule.diagnostics (l.context table) e).map l.options.override = l.findings table e rule := by
  refine List.map_congr_left fun d mem => ?_
  rw [Options.override_eq, Rule.rule_of_mem_diagnostics mem]

namespace Run

/-- The pairs of an entity and a rule that a run goes through: its way over the entities, on which
the rules that an entity is put to are noted in place of what they find. -/
def pairs (rules : List Rule) (context : Context) : List (Entity × Rule) :=
  (context.overEntities fun e =>
    ((Dispatch.ofRules rules).asked context e).map fun rule => (e, rule)).flatten

/-- Suppressions keep what they do not silence and count the rest. -/
lemma filter_eq (ss : Suppressions) (ds : List Diagnostic) :
    ss.filter ds = (ds.filter (!ss.silences ·), ds.countP ss.silences) := by
  have split := List.length_eq_countP_add_countP ss.silences (l := ds)
  have kept : (ds.filter (!ss.silences ·)).length = ds.countP (¬ss.silences ·) := by
    rw [← List.countP_eq_length_filter]
    simp
  -- the others are counted as what the length lost
  unfold Suppressions.filter
  dsimp only
  rw [kept, split, Nat.add_sub_cancel]

/-- The counts of a run add up to what it keeps. -/
lemma sum_counts (r : Run) : (r.counts.map (·.2)).sum = r.kept.length := by
  have count : ∀ id, r.count id = (r.kept.map (·.rule)).count id := by
    intro id
    rw [Run.count, List.count, List.countP_map]
    rfl
  calc (r.counts.map (·.2)).sum
      = ((r.kept.map (·.rule)).eraseDups.map ((r.kept.map (·.rule)).count ·)).sum := by
        rw [counts, List.map_map]
        simp only [Function.comp_def, count]
    _ = r.kept.length := by rw [sum_count_eraseDups, List.length_map]

end Run

namespace Linter

section
variable {l : Linter} {rules : List Rule}
variable (ok : l.catalog.rulesFor l.options = .ok rules) (table : Table)
include ok

/-- The rules that are asked about an entity are those of the catalog that are put to it. -/
lemma asked_eq_filter_puts (e : Entity) :
    (Dispatch.ofRules rules).asked (l.context table) e =
      l.catalog.rules.filter (l.puts table e) := by
  obtain ⟨-, rfl⟩ := Catalog.rulesFor_eq_ok_iff.1 ok
  rw [Dispatch.asked_ofRules, Catalog.enabled, List.filter_filter, List.filter_filter]
  refine List.filter_congr fun rule _ => ?_
  simp only [puts]
  ac_rfl

/-- A run goes through the pairs of an entity and a rule in order and leaves out those that are not
put to each other. -/
lemma pairs_eq_filter_puts :
    Run.pairs rules (l.context table) =
      (table.entities ×ˢ l.catalog.rules).filter fun p => l.puts table p.1 p.2 := by
  have product : table.entities ×ˢ l.catalog.rules =
      table.entities.flatMap fun e => l.catalog.rules.map fun rule => (e, rule) := rfl
  rw [Run.pairs, Context.overEntities_eq_map, ← List.flatMap_def, product, List.filter_flatMap]
  refine List.flatMap_congr fun e _ => ?_
  rw [asked_eq_filter_puts ok, List.filter_map]
  rfl

/-- What a run finds is what the plain loop finds. -/
lemma found_eq_plainLoop :
    ((l.context table).overEntities ((Dispatch.ofRules rules).check (l.context table))).flatten.map
      l.options.override = l.plainLoop table := by
  rw [Context.overEntities_eq_map, ← List.flatMap_def, List.map_flatMap, plainLoop]
  refine List.flatMap_congr fun e _ => ?_
  rw [Dispatch.check, asked_eq_filter_puts ok, List.map_flatMap, flatMap_filter]
  refine List.flatMap_congr fun rule _ => ?_
  rw [map_override_diagnostics]

/-- A run keeps of what the plain loop finds what no suppression silences, and counts the rest. -/
lemma ofRules_eq_plainLoop (ss : Suppressions) :
    Run.ofRules rules (l.context table) ss =
      ⟨(l.plainLoop table).filter (!ss.silences ·), (l.plainLoop table).countP ss.silences,
        table.entities.length, rules.map (·.id)⟩ := by
  have options : (l.context table).options = l.options := rfl
  rw [Run.ofRules, options, found_eq_plainLoop ok, Run.filter_eq]
  rfl

end

/-- A run finds what the plain loop finds: it keeps what no suppression silences, in order, counts
the rest, and goes once through each pair of an entity and a rule that are put to each other. -/
theorem run_eq_plainLoop (l : Linter) (table : Table) (ss : Suppressions)
    (registered : l.catalog.rules ≠ []) (known : l.catalog.Knows l.options) :
    ∃ rules run, l.rules = .ok rules ∧ l.run table ss = .ok run ∧
      Run.pairs rules (l.context table) =
        ((table.entities ×ˢ l.catalog.rules).filter fun p => l.puts table p.1 p.2) ∧
      run.kept = (l.plainLoop table).filter (!ss.silences ·) ∧
      run.suppressed = (l.plainLoop table).countP ss.silences ∧
      (run.counts.map (·.2)).sum = run.kept.length := by
  obtain ⟨rules, ok⟩ : ∃ rules, l.catalog.rulesFor l.options = .ok rules :=
    ⟨_, Catalog.rulesFor_eq_ok_iff.2 ⟨known, rfl⟩⟩
  have rules_ok : l.rules = .ok rules := by
    rw [Linter.rules, Catalog.orStandard_eq_self registered]
    exact ok
  refine ⟨rules, Run.ofRules rules (l.context table) ss, rules_ok, ?_,
    pairs_eq_filter_puts ok table, ?_, ?_, Run.sum_counts _⟩
  · rw [run, rules_ok]
    rfl
  · rw [ofRules_eq_plainLoop ok]
  · rw [ofRules_eq_plainLoop ok]

/-- A linter of three workers, with a disabled rule and a rule whose severity is lowered. -/
def threeWorkers : Linter where
  options := { Options.default with
    jobs := 3
    jobs_pos := by decide
    disabled := .ofNames ["TypeCasing"]
    severities := .ofList [("FieldCasing", .warning)] }
  catalog := ⟨[.typeCasing, .fieldCasing], []⟩
  judgement := none

/-- A type with a field and an argument, all of which are in the wrong case. -/
def wrongCase : Table :=
  let ref : TypeRef := ⟨"Int", true, 0, none, "Int"⟩
  .ofTypes [⟨"user", .object, [⟨"Name", "user", ref, [⟨"First", ref, "user", "Name", ⟨1, 18⟩⟩],
    ⟨1, 13⟩⟩], [], [], [], ⟨1, 6⟩⟩] [] "users.graphql"

/-- Three workers find in `wrongCase` what the plain loop finds. -/
theorem run_eq_plainLoop_threeWorkers :
    (threeWorkers.catalog.rules ≠ [] ∧ threeWorkers.catalog.Knows threeWorkers.options) ∧
    ∃ rules run, threeWorkers.rules = .ok rules ∧
      threeWorkers.run wrongCase [.onPath "*.First" ["*"]] = .ok run ∧
      Run.pairs rules (threeWorkers.context wrongCase) =
        ((wrongCase.entities ×ˢ threeWorkers.catalog.rules).filter fun p =>
          threeWorkers.puts wrongCase p.1 p.2) ∧
      run.kept = (threeWorkers.plainLoop wrongCase).filter
        (!Suppressions.silences [.onPath "*.First" ["*"]] ·) ∧
      run.suppressed = (threeWorkers.plainLoop wrongCase).countP
        (Suppressions.silences [.onPath "*.First" ["*"]]) ∧
      (run.counts.map (·.2)).sum = run.kept.length := by
  have registered : threeWorkers.catalog.rules ≠ [] := by simp [threeWorkers]
  have known : threeWorkers.catalog.Knows threeWorkers.options :=
    ⟨by decide +kernel, by decide +kernel, nofun⟩
  exact ⟨⟨registered, known⟩, run_eq_plainLoop _ _ _ registered known⟩

end Linter

end SchemaLint

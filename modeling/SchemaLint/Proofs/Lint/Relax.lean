import Mathlib
import SchemaLint.Proofs.Lint.Batches
import SchemaLint.Proofs.Outcome

/-!
# Relaxed options

Options are relaxed by disabling more rules, by ignoring more, and by lowering the severities that are
in effect from error to warning, in any combination. A schema that passes also passes under relaxed
options: an error that is found under these was found before (`Linter.findsError_of_relaxedTo`).

A report fails if the plain loop finds an error that is not silenced (`Linter.verdict_eq_fail_iff`).
-/

namespace SchemaLint

/-- A verdict that is not to pass is to fail. -/
lemma Verdict.ne_pass_iff {v : Verdict} : v ≠ .pass ↔ v = .fail := by
  cases v <;> decide

/-! ## Options -/

namespace Options

/-- The severity that is in effect for what a rule finds. -/
def severityOf (o : Options) (rule : Rule) : Severity :=
  (o.severities.get? rule.id).getD rule.severity

/-- The second options are the first with more rules disabled, with more ignored, and with severities
in effect that are lower for rules of the catalog, or with some of this. -/
structure RelaxedTo (c : Catalog) (o o' : Options) : Prop where
  others : ∃ disabled severities ignore, o' = { o with disabled, severities, ignore }
  disabled : ∀ id ∈ o.disabled.names, id ∈ o'.disabled.names
  ignored : ∀ e ∈ o.ignore, e ∈ o'.ignore
  severities : ∀ rule ∈ c.rules, o'.severityOf rule = .error → o.severityOf rule = .error

end Options

namespace Linter

variable {l : Linter} {o : Options} {rules rules' : List Rule} {table : Table} {d : Sdl.Document}
  {source : Option String}

/-! ## Errors of a run -/

/-- The plain loop finds what the rules find that are put to the entities, with the severity in effect
for the rule. -/
lemma mem_plainLoop_iff {x : Diagnostic} :
    x ∈ l.plainLoop table ↔
      ∃ e ∈ table.entities, ∃ rule ∈ l.catalog.rules, l.puts table e rule ∧
        ∃ y ∈ rule.diagnostics (l.context table) e,
          x = { y with severity := l.options.severityOf rule } := by
  have findings (e : Entity) (rule : Rule) : l.findings table e rule =
      (rule.diagnostics (l.context table) e).map fun y =>
        { y with severity := l.options.severityOf rule } := by
    refine List.map_congr_left fun y mem => ?_
    obtain ⟨f, -, rfl⟩ := List.mem_map.1 mem
    rfl
  rw [plainLoop, List.mem_flatMap]
  refine exists_congr fun e => and_congr_right fun _ => ?_
  rw [List.mem_flatMap]
  refine exists_congr fun rule => and_congr_right fun _ => ?_
  rw [findings]
  split
  · rename_i puts
    rw [List.mem_map, and_iff_right puts]
    simp only [eq_comm]
  · rename_i not_put
    exact iff_of_false List.not_mem_nil fun put => not_put put.1

/-- An error is left of what the plain loop finds in a document when what is silenced is taken out. -/
def FindsError (l : Linter) (d : Sdl.Document) (table : Table) : Prop :=
  ∃ x ∈ l.plainLoop table, (l.suppressions d).silences x = false ∧ x.severity = .error

/-- The linter with the catalog that it runs. -/
def withCatalog (l : Linter) : Linter := { l with catalog := l.catalog.orStandard }

/-- The verdict of a run is to fail if an error is found. -/
lemma verdict_eq_fail_iff (ok : l.rules = .ok rules) :
    (l.report table (.ofRules rules (l.context table) (l.suppressions d))).verdict = .fail ↔
      l.withCatalog.FindsError d table := by
  have found : l.found rules table = l.withCatalog.plainLoop table :=
    found_eq_plainLoop (l := l.withCatalog) ok table
  rw [report_ofRules, Report.verdict_eq_fail_iff, found]
  refine exists_congr fun x => ?_
  rw [Report.mem_aggregate, List.mem_filter, Bool.not_eq_true', and_assoc]
  rfl

/-! ## Errors under relaxed options -/

section
variable (relaxed : l.options.RelaxedTo l.catalog.orStandard o)
include relaxed

/-- Relaxed options make contexts that are alike. -/
lemma alike_relaxed (table : Table) :
    (context { l with options := o } table).Alike (l.context table) := by
  obtain ⟨disabled, severities, ignore, rfl⟩ := relaxed.others
  exact ⟨rfl, rfl, rfl, rfl, rfl, rfl, rfl, rfl, rfl, rfl⟩

/-- What is silenced stays silenced. -/
lemma silences_of_relaxedTo {x : Diagnostic}
    (loud : (suppressions { l with options := o } d).silences x = false) :
    (l.suppressions d).silences x = false := by
  rw [Suppressions.silences, List.any_eq_false] at loud ⊢
  intro s mem
  apply loud s
  rw [suppressions, List.mem_append, List.mem_map] at mem ⊢
  rcases mem with mem | ⟨e, mem, rfl⟩
  · exact .inl mem
  · exact .inr ⟨e, relaxed.ignored e mem, rfl⟩

/-- A rule that is put to an entity was put to it before. -/
lemma puts_of_relaxedTo {e : Entity} {rule : Rule} (mem : rule ∈ Catalog.standardRules)
    (puts : (withCatalog { l with options := o }).puts table e rule) :
    l.withCatalog.puts table e rule := by
  have same := Rule.sameIn_of_alike mem (alike_relaxed relaxed table) fun _ => rfl
  simp only [Linter.puts, Bool.and_eq_true, Bool.not_eq_true'] at puts ⊢
  obtain ⟨⟨⟨enabled, not_disabled⟩, target⟩, applies⟩ := puts
  refine ⟨⟨⟨enabled, ?_⟩, target⟩, ?_⟩
  · rw [NameSet.contains, List.contains_eq_mem, decide_eq_false_iff_not] at not_disabled ⊢
    exact fun disabled => not_disabled (relaxed.disabled rule.id disabled)
  · rw [← applies]
    exact (same.appliesTo e).symm

/-- An error that is found under relaxed options was found before. -/
lemma findsError_of_relaxedTo (conventional : Rule.Conventional l.catalog.orStandard.rules)
    (finds : (withCatalog { l with options := o }).FindsError d table) :
    l.withCatalog.FindsError d table := by
  obtain ⟨x, mem, loud, error⟩ := finds
  obtain ⟨e, memE, rule, registered, puts, y, memY, rfl⟩ := mem_plainLoop_iff.1 mem
  have standard : rule ∈ Catalog.standardRules := conventional.standard rule registered
  have same := Rule.sameIn_of_alike standard (alike_relaxed relaxed table) fun _ => rfl
  have memY : y ∈ rule.diagnostics (l.context table) e := by
    rw [Rule.diagnostics, ← same.check? e]
    exact memY
  have severity : l.options.severityOf rule = .error := relaxed.severities rule registered error
  refine ⟨{ y with severity := l.options.severityOf rule }, mem_plainLoop_iff.2
    ⟨e, memE, rule, registered, puts_of_relaxedTo relaxed standard puts, y, memY, rfl⟩, ?_, severity⟩
  -- a suppression does not look at severities
  exact silences_of_relaxedTo relaxed loud

end

/-- Other options that name rules of the catalog only give a report too. It passes if the report that
there was did and the options were relaxed, and fails if that did and the other options are relaxed to
those that there were. -/
lemma exists_lint_relaxed (l : Linter) {report : Report}
    (conventional : Rule.Conventional l.catalog.orStandard.rules)
    (known : l.catalog.orStandard.Knows o) (linted : l.lint d source = .ok report) :
    ∃ report', lint { l with options := o } d source = .ok report' ∧
      (l.options.RelaxedTo l.catalog.orStandard o →
        report.verdict = .pass → report'.verdict = .pass) ∧
      (o.RelaxedTo l.catalog.orStandard l.options →
        report.verdict = .fail → report'.verdict = .fail) := by
  obtain ⟨rules, ok, made⟩ := bind_eq_ok_iff.1 linted
  obtain ⟨table, built, -⟩ := bind_eq_ok_iff.1 made
  obtain ⟨rules', ok'⟩ : ∃ rules', Linter.rules { l with options := o } = .ok rules' :=
    ⟨_, Catalog.rulesFor_eq_ok_iff.2 ⟨known, rfl⟩⟩
  rw [lint_eq_ok ok built] at linted
  cases linted
  refine ⟨_, lint_eq_ok ok' built, fun relaxed pass => ?_, fun relaxed fail => ?_⟩
  · -- what fails under relaxed options failed before
    by_contra not_pass
    have fail := Verdict.ne_pass_iff.1 not_pass
    rw [verdict_eq_fail_iff ok'] at fail
    have failed := (verdict_eq_fail_iff ok).2 (findsError_of_relaxedTo relaxed conventional fail)
    rw [pass] at failed
    cases failed
  · rw [verdict_eq_fail_iff ok] at fail
    rw [verdict_eq_fail_iff ok']
    exact findsError_of_relaxedTo (l := { l with options := o }) relaxed conventional fail

end Linter

end SchemaLint

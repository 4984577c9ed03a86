import Mathlib
import SchemaLint.Proofs.Lint.Batches
import SchemaLint.Proofs.Outcome

/-!
# Rules that report

What a linter reports, in a run over a table or in the report of a document, is reported by a rule
that its catalog has and that neither the catalog nor the options disable: `Linter.rule_of_reports`.
This does not hold of a catalog without rules, in whose place the standard catalog is run.
-/

namespace SchemaLint

namespace Linter

variable {l : Linter} {rules : List Rule} {table : Table} {x : Diagnostic}

/-- The linter reports a diagnostic: it keeps it in a run over a table, or has it in the report of a
document. -/
inductive Reports (l : Linter) (x : Diagnostic) : Prop
  | run {table : Table} {ss : Suppressions} {run : Run} :
    l.run table ss = .ok run → x ∈ run.kept → Reports l x
  | lint {d : Sdl.Document} {source : Option String} {report : Report} :
    l.lint d source = .ok report → x ∈ report.diagnostics → Reports l x

/-- What rules find is what one of them finds about an entity, whatever severity the options give to
it. -/
lemma exists_finding_of_mem_found (mem : x ∈ l.found rules table) :
    ∃ rule ∈ rules, ∃ e ∈ table.entities, ∃ f ∈ rule.findings (l.context table) e,
      x = l.options.override (rule.diagnostic f) := by
  rw [found_eq_flatMap, List.mem_map] at mem
  obtain ⟨y, mem, rfl⟩ := mem
  obtain ⟨e, memE, mem⟩ := List.mem_flatMap.1 mem
  obtain ⟨rule, memRule, -, mem⟩ := Dispatch.exists_rule mem
  obtain ⟨f, memF, rfl⟩ := List.mem_map.1 mem
  exact ⟨rule, memRule, e, memE, f, memF, rfl⟩

/-- What is found bears the id of a rule that is run. -/
lemma exists_rule_of_mem_found (mem : x ∈ l.found rules table) : ∃ rule ∈ rules, rule.id = x.rule := by
  obtain ⟨rule, memRule, e, -, f, -, rfl⟩ := exists_finding_of_mem_found mem
  refine ⟨rule, memRule, ?_⟩
  rw [Options.override_eq]
  rfl

/-- What the report of a document holds is found in the table of the document. -/
lemma mem_found_of_lint {d : Sdl.Document} {source : Option String} {report : Report}
    (linted : l.lint d source = .ok report) :
    ∃ rules table, l.rules = .ok rules ∧ Table.build d source = .ok table ∧
      ∀ x ∈ report.diagnostics, x ∈ l.found rules table := by
  obtain ⟨rules, ok, made⟩ := bind_eq_ok_iff.1 linted
  obtain ⟨table, built, -⟩ := bind_eq_ok_iff.1 made
  rw [lint_eq_ok ok built, report_ofRules] at linted
  cases linted
  refine ⟨rules, table, ok, built, fun x mem => ?_⟩
  rw [Report.mem_aggregate] at mem
  exact List.mem_of_mem_filter mem

/-- The rules of a linter are rules that its catalog has and that nothing disables. -/
lemma rule_of_mem_rules (ok : l.rules = .ok rules) {rule : Rule} (mem : rule ∈ rules) :
    rule.id ∈ l.catalog.orStandard.names ∧ rule.id ∉ l.catalog.orStandard.disabled ∧
      rule.id ∉ l.options.disabled.names := by
  obtain ⟨-, rfl⟩ := Catalog.rulesFor_eq_ok_iff.1 ok
  obtain ⟨mem, not_disabled⟩ := List.mem_filter.1 mem
  obtain ⟨mem, enabled⟩ := List.mem_filter.1 mem
  refine ⟨List.mem_map_of_mem mem, ?_, ?_⟩
  · simpa using enabled
  · simpa [NameSet.contains] using not_disabled

/-- What is reported bears the id of a rule that is run. -/
lemma exists_rule_of_reports (reports : l.Reports x) :
    ∃ rules, l.rules = .ok rules ∧ ∃ rule ∈ rules, rule.id = x.rule := by
  cases reports with
  | run ran kept =>
    obtain ⟨rules, ok, ran⟩ := bind_eq_ok_iff.1 ran
    cases ran
    rw [ofRules_eq] at kept
    exact ⟨rules, ok, exists_rule_of_mem_found (List.mem_of_mem_filter kept)⟩
  | lint linted mem =>
    obtain ⟨rules, table, ok, -, found⟩ := mem_found_of_lint linted
    exact ⟨rules, ok, exists_rule_of_mem_found (found x mem)⟩

/-- Whatever a linter whose catalog has rules reports is of the id of a rule that the catalog has and
does not disable, and that the options do not disable. A linter whose catalog has no rules reports for
the rules of the convention. -/
theorem rule_of_reports (l : Linter) {x : Diagnostic} (reports : l.Reports x) :
    (l.catalog.rules ≠ [] → x.rule ∈ l.catalog.names ∧ x.rule ∉ l.catalog.disabled) ∧
    (l.catalog.rules = [] → x.rule ∈ Catalog.standard.names) ∧
    x.rule ∉ l.options.disabled.names := by
  obtain ⟨rules, ok, rule, mem, id⟩ := exists_rule_of_reports reports
  obtain ⟨registered, enabled, not_disabled⟩ := rule_of_mem_rules ok mem
  rw [id] at registered enabled not_disabled
  refine ⟨fun ne => ?_, fun none => ?_, not_disabled⟩
  · rw [Catalog.orStandard_eq_self ne] at registered enabled
    exact ⟨registered, enabled⟩
  · rw [Catalog.orStandard, none] at registered
    exact registered

/-- A linter for the cases of names, but not for those of enum values. -/
def forCases : Linter where
  options := { Options.default with disabled := .ofNames ["FieldCasing"] }
  catalog := ⟨[.typeCasing, .fieldCasing, .enumValueCasing], ["EnumValueCasing"]⟩
  judgement := none

/-- A document in which the name of a type is in the wrong case. -/
def color : Sdl.Document := ⟨[.type false ⟨"color", ⟨1, 8⟩⟩ .scalar], none⟩

/-- What is wrong with `color`. -/
def colorFinding : Diagnostic :=
  ⟨"TypeCasing", .error, "Type 'color' should be PascalCase", ⟨"color", none, none, 1, 8⟩,
    some "Color"⟩

/-- The rule that finds something in `color` is one of the three rules of a catalog. -/
theorem rule_of_reports_color :
    forCases.Reports colorFinding ∧ forCases.catalog.rules ≠ [] ∧
    colorFinding.rule ∈ forCases.catalog.names ∧ colorFinding.rule ∉ forCases.catalog.disabled ∧
    colorFinding.rule ∉ forCases.options.disabled.names := by
  have linted : forCases.lint color none = .ok ⟨[colorFinding], 0, "<schema>"⟩ :=
    toOption_eq_some_iff.1 (by decide +kernel)
  have reports : forCases.Reports colorFinding := .lint linted (List.mem_singleton_self _)
  have registered : forCases.catalog.rules ≠ [] := by simp [forCases]
  obtain ⟨of_catalog, -, not_disabled⟩ := rule_of_reports forCases reports
  exact ⟨reports, registered, (of_catalog registered).1, (of_catalog registered).2, not_disabled⟩

/-- With the empty catalog, which has no rule, the same is reported. -/
theorem empty_reports_color :
    let l : Linter := ⟨.default, .empty, none⟩
    l.Reports colorFinding ∧ colorFinding.rule ∉ l.catalog.names := by
  intro l
  have linted : l.lint color none = .ok ⟨[colorFinding], 0, "<schema>"⟩ :=
    toOption_eq_some_iff.1 (by decide +kernel)
  exact ⟨.lint linted (List.mem_singleton_self _), List.not_mem_nil⟩

end Linter

end SchemaLint

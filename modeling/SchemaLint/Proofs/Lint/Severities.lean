import Mathlib
import SchemaLint.Proofs.Lint.Batches
import SchemaLint.Proofs.Outcome

/-!
# Severities that the options give

The options may give a rule another severity. It replaces the severity of what the rule finds before
suppressions are applied and diagnostics are sorted, and is a part of what diagnostics are sorted by.
Even so it changes nothing else in a report: `Linter.lint_overriding`.
-/

namespace SchemaLint

/-! ## Suppressions -/

/-- A suppression does not look at severities. -/
lemma Suppressions.silences_override (ss : Suppressions) (o : Options) (d : Diagnostic) :
    ss.silences (o.override d) = ss.silences d := by
  rw [Options.override_eq]
  rfl

namespace Linter

/-! ## The linter with other severities -/

/-- The linter whose options give other severities. -/
def overriding (l : Linter) (severities : NameMap Severity) : Linter :=
  { l with options := { l.options with severities } }

variable {l : Linter} {rules : List Rule} {table : Table} {d : Sdl.Document}
  {source : Option String} {severities : NameMap Severity}

/-- Rules that the catalog has may be given severities. -/
lemma rules_overriding (ok : l.rules = .ok rules)
    (registered : ∀ id ∈ severities.names, id ∈ l.catalog.orStandard.names) :
    (l.overriding severities).rules = .ok rules := by
  obtain ⟨known, rules_eq⟩ := Catalog.rulesFor_eq_ok_iff.1 ok
  exact Catalog.rulesFor_eq_ok_iff.2 ⟨⟨known.disabled, registered, known.ignored⟩, rules_eq⟩

/-- No rule reads severities. -/
lemma alike_overriding (l : Linter) (severities : NameMap Severity) (table : Table) :
    ((l.overriding severities).context table).Alike (l.context table) :=
  ⟨rfl, rfl, rfl, rfl, rfl, rfl, rfl, rfl, rfl, rfl⟩

/-- Other severities change nothing of what is found but its severities. -/
lemma found_overriding (conventional : Rule.Conventional rules)
    (unchanged : l.options.severities = .empty) :
    (l.overriding severities).found rules table =
      (l.found rules table).map (l.overriding severities).options.override := by
  have base : l.options.override = id := by
    funext x
    rw [Options.override_eq, unchanged]
    rfl
  have batches : (Run.batches rules ((l.overriding severities).context table)).flatten =
      (Run.batches rules (l.context table)).flatten :=
    Run.flatten_batches_congr rfl fun rule mem =>
      Rule.sameIn_of_alike (conventional.standard rule mem) (l.alike_overriding _ table)
        fun _ => rfl
  rw [found, found, batches, base, List.map_id]

/-- Other severities leave what a report counts as suppressed, and change its diagnostics in nothing
but their severities. -/
lemma report_overriding (conventional : Rule.Conventional rules) (wf : table.WellFormed)
    (unchanged : l.options.severities = .empty) (ss : Suppressions) :
    let override := (l.overriding severities).options.override
    let report := l.report table (.ofRules rules (l.context table) ss)
    (l.overriding severities).report table
        (.ofRules rules ((l.overriding severities).context table) ss) =
      ⟨report.diagnostics.map override, report.suppressed, report.source⟩ := by
  intro override report
  have found : (l.overriding severities).found rules table = (l.found rules table).map override :=
    found_overriding conventional unchanged
  exact report_of_found_map conventional wf ss found rfl rfl
    (l.overriding severities).options.mark_override (ss.silences_override _)

/-- A document that gets a report under options without severities gets the same report under options
that give severities to some rules of the catalog, with as many diagnostics suppressed, but that each
diagnostic has the severity of its rule if one is given. The errors are those of the new severities,
and the report fails if there are any. -/
theorem lint_overriding (l : Linter) (severities : NameMap Severity) {report : Report}
    (conventional : Rule.Conventional l.catalog.orStandard.rules)
    (unchanged : l.options.severities = .empty)
    (registered : ∀ id ∈ severities.names, id ∈ l.catalog.orStandard.names)
    (linted : l.lint d source = .ok report) :
    let severity (x : Diagnostic) : Severity := (severities.get? x.rule).getD x.severity
    ∃ report', (l.overriding severities).lint d source = .ok report' ∧
      report'.diagnostics = report.diagnostics.map (fun x => { x with severity := severity x }) ∧
      report'.suppressed = report.suppressed ∧
      report'.source = report.source ∧
      report'.errors = report.diagnostics.countP (severity · = .error) ∧
      (report'.verdict = .fail ↔ 0 < report'.errors) := by
  intro severity
  obtain ⟨rules, ok, made⟩ := bind_eq_ok_iff.1 linted
  obtain ⟨table, built, -⟩ := bind_eq_ok_iff.1 made
  rw [lint_eq_ok ok built] at linted
  cases linted
  have override : (l.overriding severities).options.override =
      fun x => { x with severity := severity x } := funext fun x => Options.override_eq _ x
  refine ⟨_, lint_eq_ok (rules_overriding ok registered) built, ?_⟩
  have suppressions : (l.overriding severities).suppressions d = l.suppressions d := rfl
  rw [suppressions, report_overriding (conventional_rules conventional ok)
    (Table.wellFormed_of_build built) unchanged, override]
  refine ⟨rfl, rfl, rfl, ?_, ?_⟩
  · rw [Report.errors, List.countP_map]
    rfl
  · rw [Report.verdict]
    split
    · rename_i none
      simp [none]
    · rename_i some
      simpa using Nat.pos_of_ne_zero some

/-- A document with two errors. -/
def misnamed : Sdl.Document where
  definitions := [
    .type false ⟨"date", ⟨1, 8⟩⟩ .scalar,
    .type false ⟨"Color", ⟨2, 6⟩⟩ (.enum [⟨"red", ⟨2, 14⟩⟩])]
  origin := none

/-- A linter that ignores one of the errors of `misnamed`. -/
def ignoringRed : Linter :=
  .standard { Options.default with ignore := [⟨"EnumValueCasing", "*.red"⟩] }

/-- The report of `misnamed`. -/
def misnamedReport : Report where
  diagnostics := [⟨"TypeCasing", .error, "Type 'date' should be PascalCase",
    ⟨"date", none, none, 1, 8⟩, some "Date"⟩]
  suppressed := 1
  source := "<schema>"

/-- The errors of `misnamed` become warnings. -/
theorem lint_overriding_misnamed :
    let severities : NameMap Severity :=
      .ofList [("TypeCasing", .warning), ("EnumValueCasing", .warning)]
    let severity (x : Diagnostic) : Severity := (severities.get? x.rule).getD x.severity
    (Rule.Conventional ignoringRed.catalog.orStandard.rules ∧
      ignoringRed.options.severities = .empty ∧
      (∀ id ∈ severities.names, id ∈ ignoringRed.catalog.orStandard.names) ∧
      ignoringRed.lint misnamed none = .ok misnamedReport) ∧
    ∃ report', (ignoringRed.overriding severities).lint misnamed none = .ok report' ∧
      report'.diagnostics =
        misnamedReport.diagnostics.map (fun x => { x with severity := severity x }) ∧
      report'.suppressed = misnamedReport.suppressed ∧
      report'.source = misnamedReport.source ∧
      report'.errors = misnamedReport.diagnostics.countP (severity · = .error) ∧
      (report'.verdict = .fail ↔ 0 < report'.errors) := by
  intro severities severity
  have conventional : Rule.Conventional ignoringRed.catalog.orStandard.rules := .standardRules
  have registered : ∀ id ∈ severities.names, id ∈ ignoringRed.catalog.orStandard.names := by
    decide +kernel
  have linted : ignoringRed.lint misnamed none = .ok misnamedReport :=
    toOption_eq_some_iff.1 (by decide +kernel)
  exact ⟨⟨conventional, rfl, registered, linted⟩,
    lint_overriding ignoringRed severities conventional rfl registered linted⟩

end Linter

end SchemaLint

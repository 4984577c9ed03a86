import Mathlib
import SchemaLint.Proofs.Lint.Batches
import SchemaLint.Proofs.Outcome
import SchemaLint.Proofs.Rule.Unplaced
import SchemaLint.Proofs.Schema.UnplacedBuild

/-!
# Linting without positions

Nothing but directives in comments goes by positions. A document without directives is told the same
whether positions were kept when it was read or not: a problem of the same cause, or a report with the
same diagnostics in the same order, in which positions are known or not: `Linter.lint_unplaced`.
-/

namespace SchemaLint

/-- The diagnostic without its position. -/
def Diagnostic.unplaced (d : Diagnostic) : Diagnostic := { d with location := d.location.unplaced }

/-- A diagnostic tells the same without its position. -/
lemma Diagnostic.mark_unplaced (d : Diagnostic) : d.unplaced.mark = d.mark := rfl

/-- Options give the same severity to a diagnostic without its position. -/
lemma Options.override_unplaced (o : Options) (d : Diagnostic) :
    o.override d.unplaced = (o.override d).unplaced := by
  rw [override_eq, override_eq]
  rfl

/-- A report has the same verdict without positions. -/
lemma Report.verdict_unplaced (r : Report) :
    (⟨r.diagnostics.map (·.unplaced), r.suppressed, r.source⟩ : Report).verdict = r.verdict := by
  simp only [verdict, errors, List.countP_map]
  rfl

/-! ## Rules -/

/-- A rule that overlooks positions says the same about an entity without its position. -/
lemma Rule.diagnostics_unplaced {rule : Rule} {c : Context} (overlooks : rule.OverlooksPlaces)
    (judgement : c.judgement.OverlooksPlaces) (e : Entity) :
    rule.diagnostics c.unplaced e.unplaced = (rule.diagnostics c e).map (·.unplaced) := by
  rw [diagnostics, diagnostics, overlooks.check? c e judgement]
  cases rule.check? c e with
  | none => rfl
  | some fs =>
    rw [Findings.unplaced, Option.map_some, Option.getD_some, Option.getD_some, List.map_map,
      List.map_map]
    rfl

/-- Rules that overlook positions say the same about an entity without its position. -/
lemma Dispatch.check_unplaced {rules : List Rule} {c : Context}
    (overlooks : ∀ rule ∈ rules, rule.OverlooksPlaces) (judgement : c.judgement.OverlooksPlaces)
    (e : Entity) :
    (ofRules rules).check c.unplaced e.unplaced = ((ofRules rules).check c e).map (·.unplaced) := by
  have asked : (ofRules rules).asked c.unplaced e.unplaced = (ofRules rules).asked c e := by
    rw [asked_ofRules, asked_ofRules, e.kind_unplaced]
    refine List.filter_congr fun rule mem => ?_
    rw [(overlooks rule mem).appliesTo]
  rw [check, check, asked, List.map_flatMap]
  refine List.flatMap_congr fun rule mem => ?_
  rw [asked_ofRules] at mem
  exact Rule.diagnostics_unplaced (overlooks rule (List.mem_of_mem_filter mem)) judgement e

/-! ## Directives -/

/-- No comment of the document holds a directive. -/
def Sdl.Document.WithoutDirectives (d : Sdl.Document) : Prop :=
  ∀ origin, d.origin = some origin → ∀ t ∈ origin.tokens, ∀ text, t.lexeme = .comment text →
    Suppression.Directive.ofComment? text = none

namespace Suppressions

/-- Tokens without directives suppress nothing, by induction on them. -/
lemma ofTokens_eq_nil {tokens : List Sdl.Token} (previous : Nat)
    (silent : ∀ t ∈ tokens, ∀ text, t.lexeme = .comment text →
      Suppression.Directive.ofComment? text = none) :
    Suppression.ofTokens previous tokens = [] := by
  induction tokens generalizing previous with
  | nil => rfl
  | cons t tokens ih =>
    have rest := ih t.position.line fun t mem => silent t (List.mem_cons_of_mem _ mem)
    rw [Suppression.ofTokens]
    split
    · rename_i text comment
      rw [silent t List.mem_cons_self text comment]
      exact rest
    · exact rest

/-- A document without directives suppresses nothing. -/
lemma ofDocument_eq_nil {d : Sdl.Document} (silent : d.WithoutDirectives) : ofDocument d = [] := by
  rw [ofDocument]
  split
  · rename_i origin origin_eq
    exact ofTokens_eq_nil 0 (silent origin origin_eq)
  · rfl

end Suppressions

namespace Linter

variable {l : Linter} {d : Sdl.Document} {rules : List Rule} {table : Table} {source : String}

/-- Without directives, the suppressions are those of the options, which go by the names of a place. -/
lemma silences_unplaced (silent : d.WithoutDirectives) (x : Diagnostic) :
    (l.suppressions d.unplaced).silences x.unplaced = (l.suppressions d).silences x := by
  have unplaced : Suppressions.ofDocument d.unplaced = [] := rfl
  rw [suppressions, suppressions, unplaced, Suppressions.ofDocument_eq_nil silent,
    Suppressions.silences, Suppressions.silences, List.nil_append, List.any_map, List.any_map]
  rfl

/-! ## Reports -/

/-- What is found in a table without positions is what is found in the table, without them. -/
lemma found_unplaced (conventional : Rule.Conventional rules)
    (overlooks : ∀ j, l.judgement = some j → j.OverlooksPlaces) :
    l.found rules table.unplaced = (l.found rules table).map (·.unplaced) := by
  have judgement : (l.context table).judgement.OverlooksPlaces := by
    rw [context]
    cases own : l.judgement with
    | none => exact Judgement.overlooksPlaces_ofNames _
    | some j => exact overlooks j own
  have context : l.context table.unplaced = (l.context table).unplaced := rfl
  have check (e : Entity) :
      (Dispatch.ofRules rules).check (l.context table.unplaced) e.unplaced =
        ((Dispatch.ofRules rules).check (l.context table) e).map (·.unplaced) := by
    rw [context]
    refine Dispatch.check_unplaced (fun rule mem => ?_) judgement e
    exact Rule.overlooksPlaces_of_mem_standardRules (conventional.standard rule mem)
  simp only [found_eq_flatMap, Table.entities_unplaced, List.flatMap_map, check,
    ← List.map_flatMap, List.map_map, Function.comp_def, Options.override_unplaced]

/-- A document without directives is told the same without its positions: a problem of the same cause,
or a report that differs in the positions of its diagnostics only. -/
theorem lint_unplaced (l : Linter) (d : Sdl.Document) (source : String)
    (conventional : Rule.Conventional l.catalog.orStandard.rules)
    (overlooks : ∀ j, l.judgement = some j → j.OverlooksPlaces) (silent : d.WithoutDirectives) :
    (∀ p, l.lint d (some source) = .error p →
      ∃ p', l.lint d.unplaced (some source) = .error p' ∧ p.SameCause p' ∧
        p'.message = p.message) ∧
    ∀ report, l.lint d (some source) = .ok report →
      ∃ report', l.lint d.unplaced (some source) = .ok report' ∧
        report'.diagnostics = report.diagnostics.map (·.unplaced) ∧
        report'.suppressed = report.suppressed ∧
        report'.source = report.source ∧
        report'.verdict = report.verdict := by
  constructor
  · intro p refused
    cases ok : l.rules with
    | error problem =>
      rw [lint_eq_error_of_rules ok] at refused
      cases refused
      exact ⟨p, lint_eq_error_of_rules ok, ⟨rfl, rfl, rfl⟩, rfl⟩
    | ok rules =>
      cases built : Table.build d (some source) with
      | ok table => simp [lint_eq_ok ok built] at refused
      | error problem =>
        rw [lint_eq_error_of_build ok built] at refused
        cases refused
        obtain ⟨p', failed, same⟩ := Table.build_unplaced_error built
        exact ⟨p', lint_eq_error_of_build ok failed, same, congrArg Cause.message same.cause⟩
  · intro report linted
    obtain ⟨rules, ok, made⟩ := bind_eq_ok_iff.1 linted
    obtain ⟨table, built, -⟩ := bind_eq_ok_iff.1 made
    rw [lint_eq_ok ok built] at linted
    cases linted
    have conventional := conventional_rules conventional ok
    have same := report_of_found_map conventional (Table.wellFormed_of_build built)
      (l.suppressions d) (found_unplaced conventional overlooks) rfl rfl
      Diagnostic.mark_unplaced (silences_unplaced silent)
    refine ⟨_, lint_eq_ok ok (Table.build_unplaced built), ?_⟩
    rw [same]
    exact ⟨rfl, rfl, rfl, Report.verdict_unplaced _⟩

/-- The document of a text with a comment that is no directive. -/
def commentedDocument : Sdl.Document where
  definitions := [.type false ⟨"date", ⟨2, 8⟩⟩ .scalar]
  origin := some ⟨"day.graphql",
    [⟨.comment " A day", ⟨1, 1⟩⟩, ⟨.name "scalar", ⟨2, 1⟩⟩, ⟨.name "date", ⟨2, 8⟩⟩]⟩

/-- The report of `commentedDocument`. -/
def commentedReport : Report where
  diagnostics := [⟨"TypeCasing", .error, "Type 'date' should be PascalCase",
    ⟨"date", none, none, 2, 8⟩, some "Date"⟩]
  suppressed := 0
  source := "day.graphql"

/-- The report of `commentedDocument` without its positions. -/
theorem lint_unplaced_commented :
    let l : Linter := .standard .default
    (Sdl.Document.ofText "# A day\nscalar date" "day.graphql" = .ok commentedDocument ∧
      Rule.Conventional l.catalog.orStandard.rules ∧
      (∀ j, l.judgement = some j → j.OverlooksPlaces) ∧
      commentedDocument.WithoutDirectives ∧
      l.lint commentedDocument (some "day.graphql") = .ok commentedReport) ∧
    ∃ report', l.lint commentedDocument.unplaced (some "day.graphql") = .ok report' ∧
      report'.diagnostics = [⟨"TypeCasing", .error, "Type 'date' should be PascalCase",
        ⟨"date", none, none, 0, 0⟩, some "Date"⟩] ∧
      report'.suppressed = 0 ∧ report'.source = "day.graphql" ∧ report'.verdict = .fail := by
  intro l
  have read : Sdl.Document.ofText "# A day\nscalar date" "day.graphql" = .ok commentedDocument :=
    toOption_eq_some_iff.1 (by decide +kernel)
  have conventional : Rule.Conventional l.catalog.orStandard.rules := .standardRules
  have overlooks : ∀ j, l.judgement = some j → j.OverlooksPlaces := nofun
  have silent : commentedDocument.WithoutDirectives := by
    rintro origin ⟨⟩ t mem text comment
    simp only [List.mem_cons, List.not_mem_nil, or_false] at mem
    rcases mem with rfl | rfl | rfl
    · cases comment
      decide +kernel
    · cases comment
    · cases comment
  have linted : l.lint commentedDocument (some "day.graphql") = .ok commentedReport :=
    toOption_eq_some_iff.1 (by decide +kernel)
  exact ⟨⟨read, conventional, overlooks, silent, linted⟩,
    (lint_unplaced l commentedDocument "day.graphql" conventional overlooks silent).2 _ linted⟩

end Linter

end SchemaLint

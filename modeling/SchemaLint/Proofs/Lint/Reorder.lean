import Mathlib
import SchemaLint.Proofs.Lint.Batches
import SchemaLint.Proofs.Schema.Acceptance
import SchemaLint.Proofs.Schema.Reorder

/-!
# Linting documents in another order

The order of the definitions of a document does not matter to its report, as long as the definitions
and extensions of each type stay in order, and those of the schema: `Linter.lint_reordered`. There is
one exception. `filterSuffix` names the first of several arguments, so it has to be disabled.
-/

namespace SchemaLint.Linter

open Sdl (Document)

variable {l : Linter} {rules : List Rule} {table table' : Table} {d d' : Document}

/-- A rule that is run is not disabled. -/
lemma ne_of_disabled {id : String}
    (disabled : id ∈ l.catalog.orStandard.disabled ∨ l.options.disabled.contains id)
    (ok : l.rules = .ok rules) {rule : Rule} (mem : rule ∈ rules) : rule.id ≠ id := by
  rintro rfl
  obtain ⟨-, rfl⟩ := Catalog.rulesFor_eq_ok_iff.1 ok
  rw [Catalog.enabled, List.mem_filter, List.mem_filter] at mem
  rcases disabled with disabled | disabled
  · simp [disabled] at mem
  · simp [disabled] at mem

/-- Tables that look alike make contexts that are alike. -/
lemma alike_context (judges : ∀ j, l.judgement = some j → j.LooksUp)
    (looksLike : table'.LooksLike table) : (l.context table').Alike (l.context table) := by
  have looksUp : (l.context table).judgement.LooksUp := by
    cases given : l.judgement with
    | none => simpa [context, given] using Judgement.looksUp_ofNames _
    | some j => simpa [context, given] using judges j given
  exact ⟨looksLike.get?, looksLike.roots, rfl, rfl, rfl, rfl, rfl, rfl,
    looksUp.isEntity looksLike, looksUp.repeats looksLike⟩

/-- Entities in another order give the batches in this order. -/
lemma batches_perm (same : ∀ rule ∈ rules, rule.SameIn (l.context table') (l.context table))
    (entities : table'.entities.Perm table.entities) :
    (Run.batches rules (l.context table')).flatten.Perm
      (Run.batches rules (l.context table)).flatten := by
  rw [Run.flatten_batches, Run.flatten_batches]
  have check : (Dispatch.ofRules rules).check (l.context table') =
      (Dispatch.ofRules rules).check (l.context table) :=
    funext fun e => Dispatch.check_congr fun rule mem => Rule.sameIn_iff.1 (same rule mem) e
  rw [check]
  exact entities.flatMap_right _

/-- A document that makes no schema gets the problem of one of its violations. -/
lemma exists_violation (source : Option String) (ok : l.rules = .ok rules)
    (inconsistent : ¬d.Consistent) :
    ∃ p, l.lint d source = .error p ∧ d.Violates (d.sourceName source) p.cause p.span := by
  cases failed : Table.build d source with
  | ok table => exact absurd (Table.build_eq_ok_iff.1 failed).1 inconsistent
  | error p =>
    exact ⟨p, lint_eq_error_of_build ok failed, Table.violates_of_build_eq_error failed⟩

/-- Of two documents in different order, of which one makes a schema, the other gets the same
report. -/
lemma lint_eq_of_reorders (source : Option String)
    (conventional : Rule.Conventional l.catalog.orStandard.rules)
    (judges : ∀ j, l.judgement = some j → j.LooksUp)
    (disabled : "FilterSuffix" ∈ l.catalog.orStandard.disabled ∨
      l.options.disabled.contains "FilterSuffix")
    (reorders : d.Reorders d') (ok : l.rules = .ok rules) (consistent : d.Consistent) :
    ∃ report, l.lint d source = .ok report ∧ l.lint d' source = .ok report := by
  have built : Table.build d source = .ok _ := Table.build_eq_ok_iff.2 ⟨consistent, rfl⟩
  have built' : Table.build d' source = .ok _ :=
    Table.build_eq_ok_iff.2 ⟨reorders.consistent consistent, rfl⟩
  refine ⟨_, lint_eq_ok ok built, ?_⟩
  rw [lint_eq_ok ok built', reorders.sourceName_eq]
  have conventional := conventional_rules conventional ok
  -- only `filterSuffix` reads the usages of types, whose order is not the same
  have same : ∀ rule ∈ rules, rule.SameIn _ _ := fun rule mem =>
    Rule.sameIn_of_alike (conventional.standard rule mem)
      (alike_context judges (reorders.looksLike (d.sourceName source)))
      fun id => absurd id (ne_of_disabled disabled ok mem)
  have wf := Table.wellFormed_of_consistent consistent (d.sourceName source)
  have suppressions : l.suppressions d' = l.suppressions d := by
    rw [Linter.suppressions, Linter.suppressions, Suppressions.ofDocument, Suppressions.ofDocument,
      reorders.origin]
  rw [suppressions, Run.ofRules_eq_ofBatches]
  exact congrArg Except.ok (report_of_perm conventional wf _ rfl
    (batches_perm same (reorders.entities_perm _)))

/-- Linting a document and the same in another order gives the same report, if `filterSuffix` is
disabled. If one of them does not make a schema, neither does the other, and the problem of each is
something that is wrong with it. -/
theorem lint_reordered (l : Linter) (source : Option String)
    (conventional : Rule.Conventional l.catalog.orStandard.rules)
    (judges : ∀ j, l.judgement = some j → j.LooksUp)
    (disabled : "FilterSuffix" ∈ l.catalog.orStandard.disabled ∨
      l.options.disabled.contains "FilterSuffix")
    (reorders : d.Reorders d') :
    (l.catalog.orStandard.Knows l.options →
      (∃ report, l.lint d source = .ok report ∧ l.lint d' source = .ok report) ∨
      ∃ p p', l.lint d source = .error p ∧ l.lint d' source = .error p' ∧
        d.Violates (d.sourceName source) p.cause p.span ∧
        d'.Violates (d'.sourceName source) p'.cause p'.span) ∧
    ∀ p, l.rules = .error p → l.lint d source = .error p ∧ l.lint d' source = .error p := by
  -- options that name unknown rules are refused before any table is built
  refine ⟨fun known => ?_, fun p refused => ⟨?_, ?_⟩⟩
  · obtain ⟨rules, ok⟩ : ∃ rules, l.rules = .ok rules :=
      ⟨_, Catalog.rulesFor_eq_ok_iff.2 ⟨known, rfl⟩⟩
    by_cases consistent : d.Consistent
    · exact .inl (lint_eq_of_reorders source conventional judges disabled reorders ok consistent)
    · have inconsistent : ¬d'.Consistent := fun h => consistent (reorders.symm.consistent h)
      obtain ⟨p, failed, violates⟩ := exists_violation source ok consistent
      obtain ⟨p', failed', violates'⟩ := exists_violation source ok inconsistent
      exact .inr ⟨p, p', failed, failed', violates, violates'⟩
  · rw [lint, refused]
    rfl
  · rw [lint, refused]
    rfl

/-- A linter that does not run `filterSuffix`. -/
def withoutFilterSuffix : Linter :=
  .standard { Options.default with disabled := .ofNames ["FilterSuffix"] }

/-- A document without positions in which two types have a field with an argument called `filter`, and
the same with the definitions of these types exchanged. -/
def filtered (swapped : Bool) : Sdl.Document :=
  let definition (name : String) : Sdl.Definition :=
    .type false ⟨name, ⟨1, 6⟩⟩ (.object [] [⟨⟨"users", ⟨2, 3⟩⟩,
      [⟨⟨"filter", ⟨2, 9⟩⟩, .named ⟨"Some", ⟨2, 17⟩⟩ false⟩], .named ⟨"Int", ⟨2, 24⟩⟩ false⟩])
  let some : Sdl.Definition :=
    .type false ⟨"Some", ⟨4, 7⟩⟩ (.input [⟨⟨"id", ⟨5, 3⟩⟩, [], .named ⟨"ID", ⟨5, 7⟩⟩ true⟩])
  let d : Sdl.Document :=
    ⟨if swapped then [definition "Team", definition "Query", some]
      else [definition "Query", definition "Team", some], none⟩
  d.unplaced

/-- Exchanging two types changes nothing. -/
theorem lint_reordered_exchanged :
    let l := withoutFilterSuffix
    let d := filtered false
    let d' := filtered true
    (Rule.Conventional l.catalog.orStandard.rules ∧
      (∀ j, l.judgement = some j → j.LooksUp) ∧
      ("FilterSuffix" ∈ l.catalog.orStandard.disabled ∨ l.options.disabled.contains "FilterSuffix") ∧
      d.Reorders d' ∧ l.catalog.orStandard.Knows l.options) ∧
    (l.catalog.orStandard.Knows l.options →
      (∃ report, l.lint d none = .ok report ∧ l.lint d' none = .ok report) ∨
      ∃ p p', l.lint d none = .error p ∧ l.lint d' none = .error p' ∧
        d.Violates (d.sourceName none) p.cause p.span ∧
        d'.Violates (d'.sourceName none) p'.cause p'.span) ∧
    ∀ p, l.rules = .error p → l.lint d none = .error p ∧ l.lint d' none = .error p := by
  intro l d d'
  have conventional : Rule.Conventional l.catalog.orStandard.rules := .standardRules
  have judges : ∀ j, l.judgement = some j → j.LooksUp := nofun
  have disabled : "FilterSuffix" ∈ l.catalog.orStandard.disabled ∨
      l.options.disabled.contains "FilterSuffix" := .inr (by decide +kernel)
  have known : l.catalog.orStandard.Knows l.options := ⟨by decide +kernel, nofun, nofun⟩
  have reorders : d.Reorders d' := by
    refine ⟨List.Perm.swap _ _ _, fun name => ?_, rfl, rfl⟩
    by_cases query : "Query" = name
    · subst query
      decide +kernel
    · by_cases team : "Team" = name
      · subst team
        decide +kernel
      · simp [d, d', filtered, Document.nodesOf, Document.typeNodes, Document.unplaced,
          Sdl.Definition.unplaced, Sdl.Ident.unplaced, query, team]
  exact ⟨⟨conventional, judges, disabled, reorders, known⟩,
    lint_reordered l none conventional judges disabled reorders⟩

end SchemaLint.Linter

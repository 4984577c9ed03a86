import Mathlib
import SchemaLint.Proofs.Lint.Registered
import SchemaLint.Proofs.Rule.Fixes

/-!
# Names that reports propose

Whoever takes the names that a report proposes must get a schema that can still be read. All of them
are made of characters of a name, and only two things can be wrong with one: nothing is left of an
enum value that has no letter or digit, or a digit comes to stand in front. These are the ways in
which that comes about: `Linter.proposes_of_lintText`.
-/

namespace SchemaLint

open Sdl (IsName)

/-- A rule of the convention that has the id of one that proposes names is this one. -/
lemma Rule.mem_proposing {rule : Rule} (standard : rule ∈ Catalog.standardRules)
    (proposes : rule.id ∈ proposing.map (·.id)) : rule ∈ proposing := by
  obtain ⟨rule', mem, same⟩ := List.mem_map.1 proposes
  have standard' : rule' ∈ Catalog.standardRules := by
    revert rule' mem
    simp [proposing, Catalog.standardRules]
  rwa [← List.inj_on_of_nodup_map Rule.Conventional.standardRules.distinct standard' standard same]

/-- The document of a text has names. -/
lemma Sdl.Document.named_of_ofText {d : Document} {text source : String}
    (read : ofText text source = .ok d) : d.Named := by
  exact named_of_read (ofText_eq_ok_iff.1 read).1

namespace Linter

/-- What the report of a document with names proposes. -/
lemma proposes_of_lint {l : Linter} {d : Sdl.Document} {source : Option String} {report : Report}
    (standard : ∀ rule ∈ l.catalog.orStandard.rules, rule ∈ Catalog.standardRules)
    (prefixes : ∀ p ∈ l.options.prefixes, IsName p) (named : d.Named)
    (linted : l.lint d source = .ok report) :
    ∃ table, Table.build d source = .ok table ∧
      ∀ x ∈ report.diagnostics, x.rule ∈ Rule.proposing.map (·.id) → ∀ fix, x.fix = some fix →
        Rule.Proposes (l.context table) x.location x.rule fix := by
  obtain ⟨rules, table, ok, built, found⟩ := mem_found_of_lint linted
  refine ⟨table, built, fun x mem proposes fix fixed => ?_⟩
  obtain ⟨rule, memRule, e, memE, f, memF, rfl⟩ := exists_finding_of_mem_found (found x mem)
  rw [Options.override_eq] at proposes fixed ⊢
  obtain ⟨-, rfl⟩ := Catalog.rulesFor_eq_ok_iff.1 ok
  have known := standard rule (List.mem_of_mem_filter (List.mem_of_mem_filter memRule))
  exact Rule.proposes_of_mem_findings (Rule.mem_proposing known proposes)
    (Table.named_of_build named built e memE) memE prefixes memF fixed

/-- Whatever the eight rules that propose names propose in the report of a text, under options whose
prefixes are names, is made of characters of a name. It is empty exactly if it stands for an enum
value of underscores. It is a name unless a digit comes to stand in front in one of three ways: a
change of case drops underscores in front of a digit, or the front that is left out, a type name that
the field repeats or a forbidden prefix, stands in front of one. -/
theorem proposes_of_lintText (l : Linter) {text source : String} {report : Report}
    (standard : ∀ rule ∈ l.catalog.orStandard.rules, rule ∈ Catalog.standardRules)
    (prefixes : ∀ p ∈ l.options.prefixes, IsName p)
    (linted : l.lintText text source = .ok report) :
    ∃ d table, Sdl.Document.ofText text source = .ok d ∧
      Table.build d (some source) = .ok table ∧
      ∀ x ∈ report.diagnostics, x.rule ∈ Rule.proposing.map (·.id) → ∀ fix, x.fix = some fix →
        Rule.Proposes (l.context table) x.location x.rule fix := by
  obtain ⟨d, read, linted⟩ := bind_eq_ok_iff.1 linted
  obtain ⟨table, built, proposes⟩ :=
    proposes_of_lint standard prefixes (Sdl.Document.named_of_ofText read) linted
  exact ⟨d, table, read, built, proposes⟩

/-- An enum of one value. -/
def shade (value : String) : String := "enum Shade \x7b " ++ value ++ " \x7d"

/-- The report of an enum whose value is in the wrong case. -/
def shadeReport (value fix : String) : Report where
  diagnostics := [⟨"EnumValueCasing", .error,
    "Enum value '" ++ value ++ "' of 'Shade' should be SCREAMING_SNAKE_CASE",
    ⟨"Shade", some value, none, 1, 14⟩, some fix⟩]
  suppressed := 0
  source := "<schema>"

/-- What the reports of two enums propose: a name, and a text that starts with a digit. -/
theorem proposes_of_lintText_shade :
    let l : Linter := .standard .default
    ((∀ rule ∈ l.catalog.orStandard.rules, rule ∈ Catalog.standardRules) ∧
      (∀ p ∈ l.options.prefixes, IsName p) ∧
      l.lintText (shade "red") "<schema>" = .ok (shadeReport "red" "RED") ∧
      l.lintText (shade "_1a") "<schema>" = .ok (shadeReport "_1a" "1_A")) ∧
    (∃ d table, Sdl.Document.ofText (shade "red") "<schema>" = .ok d ∧
      Table.build d (some "<schema>") = .ok table ∧
      Rule.Proposes (l.context table) ⟨"Shade", some "red", none, 1, 14⟩ "EnumValueCasing" "RED") ∧
    (∃ d table, Sdl.Document.ofText (shade "_1a") "<schema>" = .ok d ∧
      Table.build d (some "<schema>") = .ok table ∧
      Rule.Proposes (l.context table) ⟨"Shade", some "_1a", none, 1, 14⟩ "EnumValueCasing" "1_A") ∧
    IsName "RED" ∧ ¬IsName "1_A" := by
  intro l
  have standard : ∀ rule ∈ l.catalog.orStandard.rules, rule ∈ Catalog.standardRules :=
    fun _ mem => mem
  have prefixes : ∀ p ∈ l.options.prefixes, IsName p := by decide +kernel
  have red : l.lintText (shade "red") "<schema>" = .ok (shadeReport "red" "RED") :=
    toOption_eq_some_iff.1 (by decide +kernel)
  have digit : l.lintText (shade "_1a") "<schema>" = .ok (shadeReport "_1a" "1_A") :=
    toOption_eq_some_iff.1 (by decide +kernel)
  refine ⟨⟨standard, prefixes, red, digit⟩, ?_, ?_, by decide +kernel, by decide +kernel⟩
  · obtain ⟨d, table, read, built, proposes⟩ := proposes_of_lintText l standard prefixes red
    exact ⟨d, table, read, built, proposes _ List.mem_cons_self (by decide) _ rfl⟩
  · obtain ⟨d, table, read, built, proposes⟩ := proposes_of_lintText l standard prefixes digit
    exact ⟨d, table, read, built, proposes _ List.mem_cons_self (by decide) _ rfl⟩

/-- Nothing is proposed for an enum value of underscores, and this is no name. -/
theorem lintText_proposes_nothing :
    ¬∀ (text source : String) (report : Report),
      (Linter.standard .default).lintText text source = .ok report →
      ∀ x ∈ report.diagnostics, x.rule ∈ Rule.proposing.map (·.id) → ∀ fix, x.fix = some fix →
        IsName fix := by
  intro named
  have linted : (Linter.standard .default).lintText (shade "_") "<schema>" =
      .ok (shadeReport "_" "") :=
    toOption_eq_some_iff.1 (by decide +kernel)
  exact absurd (named _ _ _ linted _ List.mem_cons_self (by decide) "" rfl) (by decide +kernel)

end Linter

end SchemaLint

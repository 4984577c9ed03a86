import Mathlib
import SchemaLint.Rule.Basic

/-!
# Reports about fields of root types

What a rule reports about an entity comes of two tests, that it applies and that it finds something. A
rule about the fields of a root type applies to those fields only that count for its operation. So
whatever it looks for, there is one condition for its only error: `Rule.reportsIff_onRootFields`.
-/

namespace SchemaLint

namespace Rule

/-- What the rule reports about an entity: its diagnostics if it applies, and otherwise nothing. -/
def reported (rule : Rule) (context : Context) (e : Entity) : List Diagnostic :=
  if rule.appliesTo context e then rule.diagnostics context e else []

/-- The rule reports one error about the entity if the condition holds, and otherwise nothing. -/
structure ReportsIff (rule : Rule) (context : Context) (e : Entity) (p : Prop) : Prop where
  one : p → ∃ message fix, rule.reported context e = [⟨rule.id, .error, message, .ofEntity e, fix⟩]
  nothing : ¬p → rule.reported context e = []

variable {context : Context} {f : Field} {id description : String} {operation : Sdl.Operation}
variable {applies : Field → Bool} {check : Context → Field → Findings} {p q : Prop}

/-- A condition for what a rule reports can be put in other words. -/
lemma ReportsIff.congr {rule : Rule} {e : Entity} (reports : rule.ReportsIff context e p)
    (same : p ↔ q) : rule.ReportsIff context e q where
  one holds := reports.one (same.2 holds)
  nothing fails := reports.nothing fun holds => fails (same.1 holds)

/-- A rule reports nothing if its condition does not hold. -/
lemma ReportsIff.reported_eq_nil_iff {rule : Rule} {e : Entity} (reports : rule.ReportsIff context e p) :
    rule.reported context e = [] ↔ ¬p := by
  constructor
  · intro silent holds
    obtain ⟨message, fix, told⟩ := reports.one holds
    rw [told] at silent
    cases silent
  · exact reports.nothing

/-- A rule for the fields of a root applies to those that serve its operation and pass its test. -/
lemma appliesTo_onRootFields_iff :
    (onRootFields id description operation applies check).appliesTo context (.field f) ↔
      context.table.operationOf? f = some operation ∧ applies f := by
  show servesOperation operation context f && applies f ↔ _
  rw [servesOperation, Bool.and_eq_true, beq_iff_eq]

/-- What the check finds about a field is reported if the field counts for the operation and the rule
applies to it. -/
lemma reported_onRootFields {findings : List Finding} (found : check context f = some findings) :
    (onRootFields id description operation applies check).reported context (.field f) =
      if context.table.operationOf? f = some operation ∧ applies f then
        findings.map fun x => ⟨id, .error, x.message, x.location, x.fix⟩
      else [] := by
  have diagnostics : (onRootFields id description operation applies check).diagnostics context
      (.field f) = ((check context f).getD []).map fun x =>
        ⟨id, .error, x.message, x.location, x.fix⟩ := rfl
  rw [reported, diagnostics, found]
  exact if_congr appliesTo_onRootFields_iff rfl rfl

/-- The rule reports a field that counts for the operation and to which it applies just if its check
finds something. -/
lemma reportsIff_onRootFields
    (one : p → ∃ message fix, check context f = .one (.field f) message fix)
    (nothing : ¬p → check context f = .nothing) :
    (onRootFields id description operation applies check).ReportsIff context (.field f)
      (context.table.operationOf? f = some operation ∧ applies f ∧ p) where
  one holds := by
    obtain ⟨serves, fits, holds⟩ := holds
    obtain ⟨message, fix, found⟩ := one holds
    rw [reported_onRootFields found, if_pos ⟨serves, fits⟩]
    exact ⟨message, fix, rfl⟩
  nothing fails := by
    by_cases holds : p
    · obtain ⟨message, fix, found⟩ := one holds
      rw [reported_onRootFields found, if_neg fun fits => fails ⟨fits.1, fits.2, holds⟩]
    · rw [reported_onRootFields (nothing holds)]
      exact ite_self []

end Rule

end SchemaLint

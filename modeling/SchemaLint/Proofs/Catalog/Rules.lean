import Mathlib
import SchemaLint.Catalog.Basic

/-!
# Rules of a run

A catalog gives the rules of a run exactly if the options name only rules that it has. They are then
its rules in order, without those that the catalog or the options disable.
-/

namespace SchemaLint.Catalog

/-- The options name no rule that the catalog does not have. -/
structure Knows (c : Catalog) (o : Options) : Prop where
  disabled : ∀ id ∈ o.disabled.names, id ∈ c.names
  severities : ∀ id ∈ o.severities.names, id ∈ c.names
  ignored : ∀ e ∈ o.ignore, e.rule ≠ "*" → e.rule ∈ c.names

/-- Ids are accepted if the catalog has all of them. -/
lemma validate_eq_ok_iff {c : Catalog} {setting : String} {ids : List String} :
    c.validate setting ids = .ok () ↔ ∀ id ∈ ids, id ∈ c.names := by
  unfold validate
  cases found : ids.find? (!c.contains ·) with
  | none =>
    simp only [true_iff]
    intro id mem
    have known := List.find?_eq_none.1 found id mem
    simpa [contains] using known
  | some id =>
    have unknown := List.find?_some found
    refine iff_of_false nofun fun known => ?_
    have has := known id (List.mem_of_find?_eq_some found)
    simp [contains, has] at unknown

/-- Settings are accepted if the catalog has all of their ids. -/
lemma forM_validate_eq_ok_iff {c : Catalog} {settings : List (String × List String)} :
    (settings.forM fun s => c.validate s.1 s.2) = .ok () ↔
      ∀ s ∈ settings, ∀ id ∈ s.2, id ∈ c.names := by
  induction settings with
  | nil => simp [List.forM, pure, Except.pure]
  | cons s settings ih =>
    rw [List.forM, List.forall_mem_cons, ← ih, ← @validate_eq_ok_iff c s.1]
    cases c.validate s.1 s.2 with
    | error p => simp [bind, Except.bind]
    | ok _ => simp [bind, Except.bind]

/-- The three settings that name rules name rules of the catalog. -/
lemma knows_iff {c : Catalog} {o : Options} :
    c.Knows o ↔ ∀ s ∈ idsOf o, ∀ id ∈ s.2, id ∈ c.names := by
  simp only [idsOf, List.forall_mem_cons, List.mem_mergeSort, Options.ignoreRules,
    List.mem_filter, List.mem_map]
  constructor
  · intro known
    refine ⟨known.disabled, known.severities, ?_, nofun⟩
    rintro id ⟨⟨e, mem, rfl⟩, ne⟩
    exact known.ignored e mem (of_decide_eq_true ne)
  · rintro ⟨disabled, severities, ignored, -⟩
    refine ⟨disabled, severities, fun e mem ne => ?_⟩
    exact ignored e.rule ⟨⟨e, mem, rfl⟩, decide_eq_true ne⟩

/-- The rules of a run. -/
lemma rulesFor_eq_ok_iff {c : Catalog} {o : Options} {rules : List Rule} :
    c.rulesFor o = .ok rules ↔
      c.Knows o ∧ rules = c.enabled.filter fun r => !o.disabled.contains r.id := by
  rw [knows_iff, ← forM_validate_eq_ok_iff, rulesFor]
  cases (idsOf o).forM fun s => c.validate s.1 s.2 with
  | error p => simp [bind, Except.bind]
  | ok _ => simp [bind, Except.bind, pure, Except.pure, eq_comm]

/-- A catalog that is not empty is not replaced. -/
lemma orStandard_eq_self {c : Catalog} (ne : c.rules ≠ []) : c.orStandard = c := by
  simp [orStandard, ne]

end SchemaLint.Catalog

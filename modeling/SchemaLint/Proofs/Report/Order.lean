import Mathlib
import SchemaLint.Report.Basic

/-!
# The order of diagnostics

Keys are compared as tuples, part by part. The key of a diagnostic keeps all of it but the
difference between a text that is absent and one that is empty; so it decides a diagnostic in which
no optional text is empty, and such diagnostics are in a strict linear order.
-/

namespace SchemaLint

/-! ## Keys -/

namespace SortKey

/-- The parts of a key as a tuple, of which the first part that differs decides. -/
def tuple (k : SortKey) :
    String ×ₗ String ×ₗ String ×ₗ Int ×ₗ String ×ₗ String ×ₗ Int ×ₗ Int ×ₗ String ×ₗ String :=
  toLex (k.typeName, toLex (k.fieldName, toLex (k.argumentName, toLex (k.place, toLex (k.rule,
    toLex (k.message, toLex (k.line, toLex (k.column, toLex (k.severity, k.fix)))))))))

/-- Keys are compared part by part. -/
lemma compare_eq_compare_tuple (a b : SortKey) :
    compare a b = Ord.compare a.tuple b.tuple := rfl

/-- A key comes first if its parts do. -/
lemma isLE_compare_iff {a b : SortKey} : (compare a b).isLE ↔ a.tuple ≤ b.tuple := by
  rw [compare_eq_compare_tuple, ← Ordering.ne_gt_iff_isLE]
  exact compare_le_iff_le

/-- Keys with the same parts are the same. -/
lemma tuple_injective : Function.Injective tuple := by
  intro a b eq
  cases a
  cases b
  simpa [tuple] using eq

end SortKey

/-! ## Diagnostics -/

/-- No optional text of the diagnostic is empty. -/
structure Diagnostic.Plain (d : Diagnostic) : Prop where
  field : d.location.fieldName ≠ some ""
  argument : d.location.argumentName ≠ some ""
  fix : d.fix ≠ some ""

/-- The first diagnostic comes strictly before the second. -/
def Diagnostic.Precedes (order : RuleOrder) (a b : Diagnostic) : Prop :=
  (SortKey.ofDiagnostic order a).tuple < (SortKey.ofDiagnostic order b).tuple

/-- An absent text and a text that is not empty are told apart by their default. -/
lemma eq_of_getD_eq {a b : Option String} (neA : a ≠ some "") (neB : b ≠ some "")
    (eq : a.getD "" = b.getD "") : a = b := by
  cases a with
  | none =>
    cases b with
    | none => rfl
    | some t => exact absurd (congrArg some eq.symm) neB
  | some s =>
    cases b with
    | none => exact absurd (congrArg some eq) neA
    | some t => exact congrArg some eq

/-- Severities with the same name are the same. -/
lemma Severity.label_injective : Function.Injective label := by
  intro a b eq
  cases a with
  | error =>
    cases b with
    | error => rfl
    | warning => exact absurd eq (by decide)
  | warning =>
    cases b with
    | error => exact absurd eq (by decide)
    | warning => rfl

/-- The key decides a diagnostic without empty texts. -/
lemma SortKey.ofDiagnostic_injective {order : RuleOrder} {a b : Diagnostic} (plainA : a.Plain)
    (plainB : b.Plain) (eq : ofDiagnostic order a = ofDiagnostic order b) : a = b := by
  have field := eq_of_getD_eq plainA.field plainB.field (congrArg SortKey.fieldName eq)
  have argument := eq_of_getD_eq plainA.argument plainB.argument (congrArg SortKey.argumentName eq)
  have fix := eq_of_getD_eq plainA.fix plainB.fix (congrArg SortKey.fix eq)
  have severity := Severity.label_injective (congrArg SortKey.severity eq)
  -- the other parts of a diagnostic are parts of its key
  obtain ⟨ruleA, severityA, messageA, ⟨typeA, fieldA, argumentA, lineA, columnA⟩, fixA⟩ := a
  obtain ⟨ruleB, severityB, messageB, ⟨typeB, fieldB, argumentB, lineB, columnB⟩, fixB⟩ := b
  simp only [ofDiagnostic, mk.injEq] at field argument fix severity eq
  grind

namespace RuleOrder

/-- A rule that has no place comes at the number of places. -/
lemma place_of_not_mem {order : RuleOrder} {id : String} (unknown : id ∉ order.map (·.1)) :
    order.place id = order.length := by
  have none_found : order.find? (·.1 == id) = none := by
    rw [List.find?_eq_none]
    intro e mem eq
    exact unknown (List.mem_map.2 ⟨e, mem, by simpa using eq⟩)
  rw [place, none_found]
  rfl

/-- The place of a known id is listed. -/
lemma place_mem {order : RuleOrder} {id : String} (known : id ∈ order.map (·.1)) :
    (id, order.place id) ∈ order := by
  obtain ⟨e, mem, rfl⟩ := List.mem_map.1 known
  cases found : order.find? (·.1 == e.1) with
  | none => exact absurd (List.find?_eq_none.1 found e mem) (by simp)
  | some e' =>
    have same : e'.1 = e.1 := by simpa using List.find?_some found
    have place : order.place e.1 = e'.2 := by rw [RuleOrder.place, found]; rfl
    rw [place, ← same]
    exact List.mem_of_find?_eq_some found

end RuleOrder

end SchemaLint

import Mathlib
import SchemaLint.Proofs.Distinct
import SchemaLint.Proofs.Report.Order

/-!
# Aggregation

The report of some diagnostics in which no optional text is empty holds them in the one list that
has each of them once and is strictly ascending. So neither the order in which they come nor how
often matters, and aggregating again changes nothing: `Report.aggregate_iff_arranges`.
-/

namespace SchemaLint

namespace Report

variable {order : RuleOrder} {ds out : List Diagnostic}

/-- The list `out` holds the diagnostics of `ds`, each once, in strictly ascending order. -/
structure Arranges (order : RuleOrder) (ds out : List Diagnostic) : Prop where
  mem_iff : ∀ d, d ∈ out ↔ d ∈ ds
  nodup : out.Nodup
  ascending : out.Pairwise (Diagnostic.Precedes order)

/-- There is one such list. -/
lemma Arranges.unique {ds' out' : List Diagnostic} (arranged : Arranges order ds out)
    (arranged' : Arranges order ds' out') (same : ∀ d, d ∈ ds ↔ d ∈ ds') : out = out' := by
  refine List.Perm.eq_of_pairwise ?_ arranged.ascending arranged'.ascending ?_
  · intro a b _ _ ab ba
    exact absurd ba (lt_asymm ab)
  · refine (List.perm_ext_iff_of_nodup arranged.nodup arranged'.nodup).2 fun d => ?_
    rw [arranged.mem_iff, arranged'.mem_iff, same]

section
variable (suppressed : Nat) (source : String)

/-- A report tells what it is made of. -/
lemma mem_aggregate {d : Diagnostic} :
    d ∈ (aggregate order suppressed source ds).diagnostics ↔ d ∈ ds := by
  simp only [aggregate]
  rw [List.mem_mergeSort, List.mem_eraseDups]

/-- A report tells nothing twice. -/
lemma nodup_aggregate : (aggregate order suppressed source ds).diagnostics.Nodup := by
  simp only [aggregate]
  exact (List.mergeSort_perm _ _).nodup_iff.2 (nodup_eraseDups ds)

/-- A report is in order. -/
lemma sorted_aggregate :
    (aggregate order suppressed source ds).diagnostics.Pairwise fun a b =>
      (SortKey.ofDiagnostic order a).tuple ≤ (SortKey.ofDiagnostic order b).tuple := by
  simp only [aggregate]
  refine (List.pairwise_mergeSort ?_ ?_ _).imp SortKey.isLE_compare_iff.1
  · intro a b c ab bc
    rw [SortKey.isLE_compare_iff] at ab bc ⊢
    exact le_trans ab bc
  · intro a b
    rw [Bool.or_eq_true, SortKey.isLE_compare_iff, SortKey.isLE_compare_iff]
    exact le_total _ _

/-- A report of diagnostics that their keys tell apart arranges them. -/
lemma arranges_aggregate_of_injective
    (injective : ∀ a ∈ ds, ∀ b ∈ ds,
      SortKey.ofDiagnostic order a = SortKey.ofDiagnostic order b → a = b) :
    Arranges order ds (aggregate order suppressed source ds).diagnostics where
  mem_iff d := mem_aggregate suppressed source
  nodup := nodup_aggregate suppressed source
  ascending := by
    refine ((sorted_aggregate suppressed source).and
      (nodup_aggregate suppressed source)).imp_of_mem ?_
    rintro a b memA memB ⟨le, ne⟩
    refine lt_of_le_of_ne le fun eq => ne ?_
    rw [mem_aggregate] at memA memB
    exact injective a memA b memB (SortKey.tuple_injective eq)

/-- A report arranges what it is made of. -/
lemma arranges_aggregate (plain : ∀ d ∈ ds, d.Plain) :
    Arranges order ds (aggregate order suppressed source ds).diagnostics :=
  arranges_aggregate_of_injective suppressed source fun a memA b memB =>
    SortKey.ofDiagnostic_injective (plain a memA) (plain b memB)

end

/-- Errors and warnings are all that a report tells. -/
lemma errors_add_warnings (r : Report) : r.errors + r.warnings = r.total := by
  have warnings : r.warnings = r.diagnostics.countP fun d => ¬(d.severity == .error) := by
    refine List.countP_congr fun d _ => ?_
    cases d.severity <;> decide
  rw [errors, warnings, total, ← List.length_eq_countP_add_countP]

/-- The verdict is to fail if there is an error. -/
lemma verdict_eq_fail_iff (r : Report) :
    r.verdict = .fail ↔ ∃ d ∈ r.diagnostics, d.severity = .error := by
  have no_error : r.errors = 0 ↔ ∀ d ∈ r.diagnostics, d.severity ≠ .error := by
    simp [errors, List.countP_eq_zero]
  rw [verdict]
  split
  · rename_i zero
    simpa using no_error.1 zero
  · rename_i nonzero
    simpa using mt no_error.2 nonzero

/-- The report of diagnostics without empty texts holds them in the one list that arranges them. It
does not depend on their order and repetition, is a fixed point of aggregation, consists of errors
and warnings, and fails if there is an error. A rule comes at one of its places; without any it
comes at the number of places, and so behind all rules with one if the places are below that
number. -/
theorem aggregate_iff_arranges (order : RuleOrder) (suppressed : Nat) (source : String)
    (ds : List Diagnostic) (plain : ∀ d ∈ ds, d.Plain) :
    let report := aggregate order suppressed source ds
    (∀ out, out = report.diagnostics ↔ Arranges order ds out) ∧
    (∀ ds', (∀ d, d ∈ ds' ↔ d ∈ ds) → aggregate order suppressed source ds' = report) ∧
    aggregate order suppressed source report.diagnostics = report ∧
    report.errors + report.warnings = report.total ∧
    (report.verdict = .fail ↔ ∃ d ∈ ds, d.severity = .error) ∧
    (∀ id ∈ order.map (·.1), (id, order.place id) ∈ order) ∧
    (∀ id ∉ order.map (·.1), order.place id = order.length) ∧
    ((∀ e ∈ order, e.2 < order.length) → ∀ known ∈ order.map (·.1),
      ∀ unknown ∉ order.map (·.1), order.place known < order.place unknown) := by
  intro report
  have arranged : Arranges order ds report.diagnostics := arranges_aggregate suppressed source plain
  have same_report : ∀ ds', (∀ d, d ∈ ds' ↔ d ∈ ds) →
      aggregate order suppressed source ds' = report := by
    intro ds' same
    have plain' : ∀ d ∈ ds', d.Plain := fun d mem => plain d ((same d).1 mem)
    have arranged' : Arranges order ds' (aggregate order suppressed source ds').diagnostics :=
      arranges_aggregate suppressed source plain'
    have diagnostics := arranged'.unique arranged same
    exact congrArg (Report.mk · suppressed source) diagnostics
  refine ⟨fun out => ⟨?_, ?_⟩, same_report, same_report _ arranged.mem_iff,
    errors_add_warnings report, ?_, fun id => RuleOrder.place_mem,
    fun id => RuleOrder.place_of_not_mem, ?_⟩
  · rintro rfl
    exact arranged
  · intro out_arranged
    exact out_arranged.unique arranged fun d => Iff.rfl
  · rw [verdict_eq_fail_iff]
    simp only [arranged.mem_iff]
  · intro below known isKnown unknown isUnknown
    rw [RuleOrder.place_of_not_mem isUnknown]
    exact below _ (RuleOrder.place_mem isKnown)

/-- A diagnostic of a rule about a type, of which nothing else is known. -/
def ofRule (rule : String) (severity : Severity) : Diagnostic :=
  ⟨rule, severity, "", ⟨"T", none, none, 0, 0⟩, none⟩

/-- Two rules of one place and one without a place, of which one is repeated. -/
theorem aggregate_iff_arranges_sharedPlace :
    let order : RuleOrder := [("B", 0), ("A", 0)]
    let ds := [ofRule "Z" .error, ofRule "B" .warning, ofRule "A" .warning, ofRule "B" .warning]
    let report := aggregate order 2 "t.graphql" ds
    (∀ d ∈ ds, d.Plain) ∧
    (∀ out, out = report.diagnostics ↔ Arranges order ds out) ∧
    (∀ ds', (∀ d, d ∈ ds' ↔ d ∈ ds) → aggregate order 2 "t.graphql" ds' = report) ∧
    aggregate order 2 "t.graphql" report.diagnostics = report ∧
    report.errors + report.warnings = report.total ∧
    (report.verdict = .fail ↔ ∃ d ∈ ds, d.severity = .error) ∧
    (∀ id ∈ order.map (·.1), (id, order.place id) ∈ order) ∧
    (∀ id ∉ order.map (·.1), order.place id = order.length) ∧
    ((∀ e ∈ order, e.2 < order.length) → ∀ known ∈ order.map (·.1),
      ∀ unknown ∉ order.map (·.1), order.place known < order.place unknown) := by
  intro order ds report
  have plain : ∀ d ∈ ds, d.Plain := by
    simp only [ds, List.forall_mem_cons]
    exact ⟨⟨nofun, nofun, nofun⟩, ⟨nofun, nofun, nofun⟩, ⟨nofun, nofun, nofun⟩,
      ⟨nofun, nofun, nofun⟩, nofun⟩
  exact ⟨plain, aggregate_iff_arranges order 2 "t.graphql" ds plain⟩

/-- With a place that is not below the number of places, a rule without a place may come before one
that has a place. -/
theorem aggregate_unknown_before_known :
    ¬∀ (order : RuleOrder) (ds : List Diagnostic), (∀ d ∈ ds, d.Plain) →
      (aggregate order 0 "" ds).diagnostics.Pairwise fun a b =>
        a.location = b.location → b.rule ∈ order.map (·.1) → a.rule ∈ order.map (·.1) := by
  intro known_first
  have plain : ∀ d ∈ [ofRule "A" .error, ofRule "Z" .error], d.Plain := by
    simp only [List.forall_mem_cons]
    exact ⟨⟨nofun, nofun, nofun⟩, ⟨nofun, nofun, nofun⟩, nofun⟩
  have sorted := known_first [("A", 5)] _ plain
  -- the report is not computed: it is the list that arranges the diagnostics
  have behind : Arranges [("A", 5)] [ofRule "A" .error, ofRule "Z" .error]
      [ofRule "Z" .error, ofRule "A" .error] := by
    refine ⟨fun d => ?_, by decide, ?_⟩
    · simp only [List.mem_cons, List.not_mem_nil, or_false]
      exact or_comm
    · refine List.pairwise_pair.2 ?_
      simp [Diagnostic.Precedes, SortKey.ofDiagnostic, SortKey.tuple, ofRule, RuleOrder.place,
        Prod.Lex.toLex_lt_toLex]
  rw [← behind.unique (arranges_aggregate 0 "" plain) fun d => Iff.rfl] at sorted
  have z_known := List.pairwise_pair.1 sorted rfl (by decide)
  exact absurd z_known (by decide)

end Report

end SchemaLint

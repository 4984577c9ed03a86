import Mathlib
import SchemaLint.Proofs.Report.Aggregate

/-!
# Marks of diagnostics

The mark of a diagnostic is a part of its key: the rule, the names of the place and the message. Where
the marks of some diagnostics are different, a report merges none of them, does not depend on the
order in which they come, and a part of them makes a part of the report. What changes in them besides
their marks changes in the report alone, not in its order.
-/

namespace SchemaLint

/-- The names of the type, the field and the argument, of which those that are absent are empty. -/
def Location.names (l : Location) : String × String × String :=
  (l.typeName, l.fieldName.getD "", l.argumentName.getD "")

/-- The rule of a diagnostic, the names of its place, and its message. -/
def Diagnostic.mark (d : Diagnostic) : String × (String × String × String) × String :=
  (d.rule, d.location.names, d.message)

/-- Diagnostics with the same key tell the same. -/
lemma SortKey.mark_eq_of_ofDiagnostic_eq {order : RuleOrder} {a b : Diagnostic}
    (eq : ofDiagnostic order a = ofDiagnostic order b) : a.mark = b.mark :=
  congrArg (fun k : SortKey => (k.rule, (k.typeName, k.fieldName, k.argumentName), k.message)) eq

/-- Diagnostics that are told apart have different keys. -/
lemma SortKey.nodup_map_ofDiagnostic {ds : List Diagnostic} (marked : (ds.map (·.mark)).Nodup)
    (order : RuleOrder) : (ds.map (ofDiagnostic order)).Nodup := by
  refine List.pairwise_map.2 ((List.pairwise_map.1 marked).imp ?_)
  intro a b ne eq
  exact ne (mark_eq_of_ofDiagnostic_eq eq)

/-- Of two diagnostics of different marks, the marks decide which comes first. -/
lemma Diagnostic.Precedes.of_mark_eq {order : RuleOrder} {a b a' b' : Diagnostic}
    (precedes : Precedes order a b) (ne : a.mark ≠ b.mark) (sameA : a'.mark = a.mark)
    (sameB : b'.mark = b.mark) : Precedes order a' b' := by
  simp only [mark, Location.names, Prod.mk.injEq] at ne sameA sameB
  obtain ⟨ruleA, ⟨typeA, fieldA, argumentA⟩, messageA⟩ := sameA
  obtain ⟨ruleB, ⟨typeB, fieldB, argumentB⟩, messageB⟩ := sameB
  simp only [Precedes, SortKey.tuple, SortKey.ofDiagnostic, Prod.Lex.toLex_lt_toLex] at precedes ⊢
  -- all parts of a key up to the message are parts of the mark, and one of these differs
  rw [ruleA, typeA, fieldA, argumentA, messageA, ruleB, typeB, fieldB, argumentB, messageB]
  grind

namespace Report

variable {order : RuleOrder} {suppressed : Nat} {source : String} {ds ds' out : List Diagnostic}

/-- A part of the list that arranges some diagnostics arranges that part of them. -/
lemma Arranges.filter (arranged : Arranges order ds out) (p : Diagnostic → Bool) :
    Arranges order (ds.filter p) (out.filter p) where
  mem_iff d := by rw [List.mem_filter, List.mem_filter, arranged.mem_iff]
  nodup := arranged.nodup.filter p
  ascending := arranged.ascending.filter p

section
variable (marked : (ds.map (·.mark)).Nodup)
include marked

/-- A report arranges diagnostics that are told apart. -/
lemma arranges_of_marked :
    Arranges order ds (aggregate order suppressed source ds).diagnostics := by
  refine arranges_aggregate_of_injective suppressed source fun a memA b memB eq => ?_
  exact List.inj_on_of_nodup_map marked memA memB (SortKey.mark_eq_of_ofDiagnostic_eq eq)

/-- A report merges no diagnostics of different marks. -/
lemma total_aggregate : (aggregate order suppressed source ds).total = ds.length := by
  have arranged : Arranges order ds (aggregate order suppressed source ds).diagnostics :=
    arranges_of_marked marked
  refine ((List.perm_ext_iff_of_nodup arranged.nodup ?_).2 arranged.mem_iff).length_eq
  exact List.Nodup.of_map _ marked

/-- The order in which diagnostics of different marks come does not matter. -/
lemma aggregate_of_perm (perm : ds'.Perm ds) :
    aggregate order suppressed source ds' = aggregate order suppressed source ds := by
  have marked' : (ds'.map (·.mark)).Nodup := (perm.map _).nodup_iff.2 marked
  have diagnostics : (aggregate order suppressed source ds').diagnostics =
      (aggregate order suppressed source ds).diagnostics :=
    (arranges_of_marked marked').unique (arranges_of_marked marked) fun d => perm.mem_iff
  exact congrArg (Report.mk · suppressed source) diagnostics

/-- The list that arranges diagnostics of different marks goes on to arrange them when they change in
anything but their marks. -/
lemma Arranges.map (arranged : Arranges order ds out) {f : Diagnostic → Diagnostic}
    (keeps : ∀ d, (f d).mark = d.mark) : Arranges order (ds.map f) (out.map f) := by
  have ascending : (out.map f).Pairwise (Diagnostic.Precedes order) := by
    refine List.pairwise_map.2 (arranged.ascending.imp_of_mem ?_)
    intro a b memA memB precedes
    refine precedes.of_mark_eq (fun same => ?_) (keeps a) (keeps b)
    rw [arranged.mem_iff] at memA memB
    cases List.inj_on_of_nodup_map marked memA memB same
    exact lt_irrefl _ precedes
  refine ⟨fun d => ?_, ascending.imp fun precedes => ?_, ascending⟩
  · simp only [List.mem_map, arranged.mem_iff]
  · rintro rfl
    exact lt_irrefl _ precedes

/-- What is changed in diagnostics of different marks, but for their marks, is changed in the report. -/
lemma diagnostics_aggregate_map {f : Diagnostic → Diagnostic} (keeps : ∀ d, (f d).mark = d.mark) :
    (aggregate order suppressed source (ds.map f)).diagnostics =
      (aggregate order suppressed source ds).diagnostics.map f := by
  have marked' : ((ds.map f).map (·.mark)).Nodup := by
    rw [List.map_map]
    simpa only [Function.comp_def, keeps] using marked
  have arranged : Arranges order ds (aggregate order suppressed source ds).diagnostics :=
    arranges_of_marked marked
  exact (arranges_of_marked marked').unique (arranged.map marked keeps) fun d => Iff.rfl

/-- A part of diagnostics of different marks makes that part of the report. -/
lemma diagnostics_aggregate_filter (p : Diagnostic → Bool) (suppressed' : Nat) :
    (aggregate order suppressed' source (ds.filter p)).diagnostics =
      (aggregate order suppressed source ds).diagnostics.filter p := by
  have marked' : ((ds.filter p).map (·.mark)).Nodup := marked.sublist (List.filter_sublist.map _)
  exact (arranges_of_marked marked').unique ((arranges_of_marked marked).filter p) fun d => Iff.rfl

end

end Report

end SchemaLint

import Mathlib
import SchemaLint.Proofs.Lint.Run
import SchemaLint.Proofs.Rule.Findings
import SchemaLint.Proofs.Rule.Reads

/-!
# Batches of a run

A run makes a batch of diagnostics of each entity and joins the batches. Where the rules are those of
the convention and the table was built of a document, all these diagnostics have different marks. So
the report holds every one of them that is not suppressed, and it does not depend on the order in
which the batches are joined: `Linter.lint_joins_batches`.
-/

namespace SchemaLint

namespace Run

/-- The batches that a run makes: what the rules find about each entity. -/
def batches (rules : List Rule) (context : Context) : List (List Diagnostic) :=
  context.overEntities ((Dispatch.ofRules rules).check context)

/-- The run that joins some batches. -/
def ofBatches (rules : List Rule) (context : Context) (suppressions : Suppressions)
    (batches : List (List Diagnostic)) : Run :=
  let (kept, suppressed) := suppressions.filter (batches.flatten.map context.options.override)
  ⟨kept, suppressed, context.table.entities.length, rules.map (·.id)⟩

/-- A run of rules joins the batches of its entities. -/
lemma ofRules_eq_ofBatches (rules : List Rule) (context : Context) (ss : Suppressions) :
    ofRules rules context ss = ofBatches rules context ss (batches rules context) := rfl

/-- The batches of a run are what the rules find about one entity after another. -/
lemma flatten_batches (rules : List Rule) (context : Context) :
    (batches rules context).flatten =
      context.table.entities.flatMap ((Dispatch.ofRules rules).check context) := by
  rw [batches, Context.overEntities_eq_map, ← List.flatMap_def]

end Run

/-! ## Marks of what is found -/

section
variable {rules : List Rule} {rule : Rule} {context : Context} {e e' : Entity} {d d' : Diagnostic}

/-- A diagnostic of a rule is made of one of its findings. -/
lemma Rule.exists_finding (mem : d ∈ rule.diagnostics context e) :
    ∃ f ∈ rule.findings context e, d.mark = (rule.id, f.mark) := by
  obtain ⟨f, memF, rfl⟩ := List.mem_map.1 mem
  exact ⟨f, memF, rfl⟩

/-- A diagnostic about an entity is one of a rule for its kind. -/
lemma Dispatch.exists_rule (mem : d ∈ (ofRules rules).check context e) :
    ∃ rule ∈ rules, e.kind ∈ rule.targets ∧ d ∈ rule.diagnostics context e := by
  obtain ⟨rule, asked, memD⟩ := List.mem_flatMap.1 mem
  rw [asked_ofRules, List.mem_filter, Bool.and_eq_true, List.contains_iff_mem] at asked
  exact ⟨rule, asked.1, asked.2.1, memD⟩

/-- Rules of some ids find what the rules find that is of these ids. -/
lemma Dispatch.check_filter (rules : List Rule) (p : String → Bool) (context : Context) (e : Entity) :
    (ofRules (rules.filter (p ·.id))).check context e =
      ((ofRules rules).check context e).filter (p ·.rule) := by
  rw [check, check, asked_ofRules, asked_ofRules, List.filter_flatMap, List.filter_comm,
    flatMap_filter]
  refine List.flatMap_congr fun rule _ => ?_
  -- of a rule all is left or nothing
  cases left : p rule.id with
  | false =>
    refine (List.filter_eq_nil_iff.2 fun d mem => ?_).symm
    simp [Rule.rule_of_mem_diagnostics mem, left]
  | true =>
    refine (List.filter_eq_self.2 fun d mem => ?_).symm
    simp [Rule.rule_of_mem_diagnostics mem, left]

/-- Rules that answer the same about an entity in two contexts find the same about it. -/
lemma Dispatch.check_congr {c c' : Context} (same : ∀ rule ∈ rules, rule.SameAt c c' e) :
    (ofRules rules).check c e = (ofRules rules).check c' e := by
  have asked : (ofRules rules).asked c e = (ofRules rules).asked c' e := by
    rw [asked_ofRules, asked_ofRules]
    refine List.filter_congr fun rule mem => ?_
    rw [(same rule mem).appliesTo]
  rw [check, check, asked]
  refine List.flatMap_congr fun rule mem => ?_
  rw [asked_ofRules] at mem
  rw [Rule.diagnostics, Rule.diagnostics, (same rule (List.mem_of_mem_filter mem)).check?]

/-- Rules that answer the same in two contexts of one table make the same batches. -/
lemma Run.flatten_batches_congr {c c' : Context} (table : c.table = c'.table)
    (same : ∀ rule ∈ rules, rule.SameIn c c') :
    (batches rules c).flatten = (batches rules c').flatten := by
  rw [flatten_batches, flatten_batches, table]
  exact List.flatMap_congr fun e _ =>
    Dispatch.check_congr fun rule mem => Rule.sameIn_iff.1 (same rule mem) e

/-- Another severity changes nothing of what is told and where. -/
lemma Options.mark_override (o : Options) (d : Diagnostic) : (o.override d).mark = d.mark := by
  rw [override_eq]
  rfl

/-- Rules of the convention, none of them twice. -/
structure Rule.Conventional (rules : List Rule) : Prop where
  standard : ∀ rule ∈ rules, rule ∈ Catalog.standardRules
  distinct : (rules.map (·.id)).Nodup

namespace Rule.Conventional

/-- The rules of the standard catalog are conventional. -/
lemma standardRules : Conventional Catalog.standardRules where
  standard _ mem := mem
  distinct := by decide +kernel

variable (conventional : Conventional rules)
include conventional

/-- Some of conventional rules are conventional. -/
lemma filter (p : Rule → Bool) : Conventional (rules.filter p) where
  standard rule mem := conventional.standard rule (List.mem_of_mem_filter mem)
  distinct := conventional.distinct.sublist (List.filter_sublist.map _)

/-- What conventional rules find about one entity is told apart. -/
lemma pairwise_mark_check (wf : e.WellFormed) :
    ((Dispatch.ofRules rules).check context e).Pairwise fun d d' => d.mark ≠ d'.mark := by
  have asked : Conventional ((Dispatch.ofRules rules).asked context e) := by
    rw [Dispatch.asked_ofRules]
    exact conventional.filter _
  refine List.pairwise_flatMap.2 ⟨fun rule mem => ?_, ?_⟩
  · refine List.pairwise_map.2 ((pairwise_mark (asked.standard rule mem) wf).imp ?_)
    intro f f' ne same
    exact ne (congrArg (·.2) same)
  · refine (List.pairwise_map.1 asked.distinct).imp fun ne d mem d' mem' same => ne ?_
    rw [← rule_of_mem_diagnostics mem, ← rule_of_mem_diagnostics mem']
    exact congrArg (·.1) same

/-- What the rules find about two entities at different places differs in its mark. -/
lemma mark_ne_of_check (wf : e.WellFormed) (wf' : e'.WellFormed) (apart : e.Apart e')
    (mem : d ∈ (Dispatch.ofRules rules).check context e)
    (mem' : d' ∈ (Dispatch.ofRules rules).check context e') : d.mark ≠ d'.mark := by
  obtain ⟨rule, memRule, target, mem⟩ := Dispatch.exists_rule mem
  obtain ⟨rule', memRule', target', mem'⟩ := Dispatch.exists_rule mem'
  obtain ⟨f, memF, mark⟩ := exists_finding mem
  obtain ⟨f', memF', mark'⟩ := exists_finding mem'
  rw [mark, mark']
  intro same
  -- marks tell the ids of rules, and ids tell rules apart
  have same_rule : rule = rule' :=
    List.inj_on_of_nodup_map conventional.distinct memRule memRule' (congrArg (·.1) same)
  subst same_rule
  exact mark_ne_of_apart (conventional.standard rule memRule) target target' wf wf' apart memF memF'
    (congrArg (·.2) same)

/-- All that the rules find in a well-formed table has different marks. -/
lemma nodup_mark_batches (wf : context.table.WellFormed) :
    ((Run.batches rules context).flatten.map (·.mark)).Nodup := by
  rw [Run.flatten_batches]
  refine List.pairwise_map.2 (List.pairwise_flatMap.2 ⟨fun e mem => ?_, ?_⟩)
  · exact conventional.pairwise_mark_check (wf.entity mem)
  · refine wf.pairwise_apart.imp_of_mem ?_
    intro e e' memE memE' apart d mem d' mem'
    exact conventional.mark_ne_of_check (wf.entity memE) (wf.entity memE') apart mem mem'

/-- What conventional rules find about a table is told apart. -/
lemma nodup_mark_override (wf : context.table.WellFormed) (o : Options) :
    (((Run.batches rules context).flatten.map o.override).map (·.mark)).Nodup := by
  rw [List.map_map]
  simp only [Function.comp_def, Options.mark_override]
  exact conventional.nodup_mark_batches wf

end Rule.Conventional

end

/-! ## Reports -/

namespace Linter

variable {l : Linter} {rules : List Rule} {table : Table}

/-- The rules that a linter runs are conventional if those of its catalog are. -/
lemma conventional_rules (conventional : Rule.Conventional l.catalog.orStandard.rules)
    (ok : l.rules = .ok rules) : Rule.Conventional rules := by
  obtain ⟨-, rfl⟩ := Catalog.rulesFor_eq_ok_iff.1 ok
  exact (conventional.filter _).filter _

/-- A document of which a table can be built gets the report of a run. -/
lemma lint_eq_ok {d : Sdl.Document} {source : Option String} (ok : l.rules = .ok rules)
    (built : Table.build d source = .ok table) :
    l.lint d source =
      .ok (l.report table (.ofRules rules (l.context table) (l.suppressions d))) := by
  rw [lint, ok, built]
  rfl

/-- Options that are refused stop a linter. -/
lemma lint_eq_error_of_rules {d : Sdl.Document} {source : Option String} {p : Problem}
    (refused : l.rules = .error p) : l.lint d source = .error p := by
  rw [lint, refused]
  rfl

/-- A document of which no table can be built stops a linter. -/
lemma lint_eq_error_of_build {d : Sdl.Document} {source : Option String} {p : Problem}
    (ok : l.rules = .ok rules) (failed : Table.build d source = .error p) :
    l.lint d source = .error p := by
  rw [lint, ok, failed]
  rfl

/-- What a run finds, with the severities of the options. -/
def found (l : Linter) (rules : List Rule) (table : Table) : List Diagnostic :=
  (Run.batches rules (l.context table)).flatten.map l.options.override

/-- What is found about a table is found entity by entity. -/
lemma found_eq_flatMap (l : Linter) (rules : List Rule) (table : Table) :
    l.found rules table =
      (table.entities.flatMap ((Dispatch.ofRules rules).check (l.context table))).map
        l.options.override := by
  rw [found, Run.flatten_batches]
  rfl

/-- Rules of some ids find what the rules find that is of these ids. -/
lemma found_filter (l : Linter) (rules : List Rule) (table : Table) (p : String → Bool) :
    l.found (rules.filter (p ·.id)) table = (l.found rules table).filter (p ·.rule) := by
  have rule : ∀ d, (l.options.override d).rule = d.rule := fun d => by rw [Options.override_eq]
  rw [found_eq_flatMap, found_eq_flatMap, List.filter_map, List.filter_flatMap]
  simp only [Function.comp_def, rule]
  congr 1
  exact List.flatMap_congr fun e _ => Dispatch.check_filter rules p _ e

/-- A run keeps what no suppression silences of what is found, and counts the rest. -/
lemma ofRules_eq (ss : Suppressions) :
    Run.ofRules rules (l.context table) ss =
      ⟨(l.found rules table).filter (!ss.silences ·), (l.found rules table).countP ss.silences,
        table.entities.length, rules.map (·.id)⟩ := by
  have options : (l.context table).options = l.options := rfl
  rw [Run.ofRules_eq_ofBatches, Run.ofBatches, Run.filter_eq, options, found]
  rfl

/-- The report of joined batches holds what no suppression silences, and counts the rest. -/
lemma report_ofBatches (ss : Suppressions) (batches : List (List Diagnostic)) :
    l.report table (.ofBatches rules (l.context table) ss batches) =
      .aggregate (.ofCatalog l.catalog.orStandard)
        ((batches.flatten.map l.options.override).countP ss.silences) table.source
        ((batches.flatten.map l.options.override).filter (!ss.silences ·)) := by
  have options : (l.context table).options = l.options := rfl
  rw [report, Run.ofBatches, Run.filter_eq, options]

/-- The report of a run tells what is not silenced of what is found, and counts the rest. -/
lemma report_ofRules (ss : Suppressions) :
    l.report table (.ofRules rules (l.context table) ss) =
      .aggregate (.ofCatalog l.catalog.orStandard) ((l.found rules table).countP ss.silences)
        table.source ((l.found rules table).filter (!ss.silences ·)) :=
  report_ofBatches ss _

section
variable (conventional : Rule.Conventional rules) (wf : table.WellFormed) (ss : Suppressions)
include conventional wf

/-- What a report tells is told apart. -/
lemma nodup_mark_kept :
    (((l.found rules table).filter (!ss.silences ·)).map (·.mark)).Nodup := by
  refine List.Nodup.sublist (List.filter_sublist.map _) ?_
  exact conventional.nodup_mark_override wf l.options

/-- The report and the number of suppressed diagnostics make up the batches of the run. -/
lemma total_add_suppressed :
    let report := l.report table (.ofRules rules (l.context table) ss)
    report.total + report.suppressed = (Run.batches rules (l.context table)).flatten.length := by
  intro report
  have eq : report = _ := report_ofRules ss
  have kept : ((l.found rules table).filter (!ss.silences ·)).length =
      (l.found rules table).countP (¬ss.silences ·) := by
    rw [← List.countP_eq_length_filter]
    simp
  have total : report.total = (l.found rules table).countP (¬ss.silences ·) := by
    rw [eq, Report.total_aggregate (nodup_mark_kept conventional wf ss), kept]
  have suppressed : report.suppressed = (l.found rules table).countP ss.silences := by
    rw [eq]
    rfl
  rw [total, suppressed, Nat.add_comm, ← List.length_eq_countP_add_countP, found, List.length_map]

/-- The order of diagnostics in the batches that are joined does not matter to the report, nor does
the table beside its source. -/
lemma report_of_perm {table' : Table} {batches : List (List Diagnostic)}
    (source : table'.source = table.source)
    (perm : batches.flatten.Perm (Run.batches rules (l.context table)).flatten) :
    l.report table' (.ofBatches rules (l.context table') ss batches) =
      l.report table (.ofRules rules (l.context table) ss) := by
  have found_perm := perm.map l.options.override
  rw [report_ofBatches, report_ofRules, found, found_perm.countP_eq, source]
  exact Report.aggregate_of_perm (nodup_mark_kept conventional wf ss) (found_perm.filter _)

/-- If what is found changes in nothing but what marks and suppressions do not look at, then so do the
diagnostics of the report, and the rest of it stays as it is. -/
lemma report_of_found_map {l' : Linter} {table' : Table} {f : Diagnostic → Diagnostic}
    {ss' : Suppressions} (found : l'.found rules table' = (l.found rules table).map f)
    (catalog : l'.catalog = l.catalog) (source : table'.source = table.source)
    (marks : ∀ x, (f x).mark = x.mark) (silences : ∀ x, ss'.silences (f x) = ss.silences x) :
    let report := l.report table (.ofRules rules (l.context table) ss)
    l'.report table' (.ofRules rules (l'.context table') ss') =
      ⟨report.diagnostics.map f, report.suppressed, report.source⟩ := by
  intro report
  have suppressed : ((l.found rules table).map f).countP ss'.silences =
      (l.found rules table).countP ss.silences := by
    rw [List.countP_map]
    exact List.countP_congr fun x _ => by rw [Function.comp_apply, silences]
  have kept : ((l.found rules table).map f).filter (!ss'.silences ·) =
      ((l.found rules table).filter (!ss.silences ·)).map f := by
    rw [List.filter_map]
    congr 2
    funext x
    rw [Function.comp_apply, silences]
  have report_eq : report = .aggregate (.ofCatalog l.catalog.orStandard)
      ((l.found rules table).countP ss.silences) table.source
      ((l.found rules table).filter (!ss.silences ·)) := report_ofRules ss
  rw [report_ofRules, found, suppressed, kept, report_eq, catalog, source]
  exact congrArg (Report.mk · _ _)
    (Report.diagnostics_aggregate_map (nodup_mark_kept conventional wf ss) marks)

end

/-- All that the rules of the convention find in the table of a document has different keys,
whichever severities are replaced. So a report that is made of it lacks nothing but what is
suppressed, and joining the batches of a run in another order gives the same report. -/
theorem lint_joins_batches (l : Linter) {d : Sdl.Document} {source : Option String}
    (standard : l.catalog.orStandard.rules = Catalog.standardRules)
    (built : Table.build d source = .ok table) :
    (∀ order,
      let found := (Run.batches Catalog.standardRules (l.context table)).flatten
      (found.map (SortKey.ofDiagnostic order)).Nodup ∧
      ((found.map l.options.override).map (SortKey.ofDiagnostic order)).Nodup) ∧
    (l.catalog.orStandard.Knows l.options → ∃ rules, l.rules = .ok rules ∧
      l.lint d source =
        .ok (l.report table (.ofRules rules (l.context table) (l.suppressions d))) ∧
      ∀ ss,
        let batches := Run.batches rules (l.context table)
        let report := l.report table (.ofRules rules (l.context table) ss)
        report.total + report.suppressed = batches.flatten.length ∧
        ∀ joined, joined.Perm batches →
          l.report table (.ofBatches rules (l.context table) ss joined) = report) := by
  have wf : table.WellFormed := Table.wellFormed_of_build built
  refine ⟨fun order => ⟨?_, ?_⟩, fun known => ?_⟩
  · -- keys before severities are replaced, and then after it
    exact SortKey.nodup_map_ofDiagnostic
      (Rule.Conventional.standardRules.nodup_mark_batches wf) order
  · exact SortKey.nodup_map_ofDiagnostic
      (Rule.Conventional.standardRules.nodup_mark_override wf l.options) order
  · obtain ⟨rules, ok⟩ : ∃ rules, l.rules = .ok rules :=
      ⟨_, Catalog.rulesFor_eq_ok_iff.2 ⟨known, rfl⟩⟩
    have conventional : Rule.Conventional rules :=
      conventional_rules (standard ▸ Rule.Conventional.standardRules) ok
    refine ⟨rules, ok, lint_eq_ok ok built, fun ss =>
      ⟨total_add_suppressed conventional wf ss, fun _ perm => ?_⟩⟩
    exact report_of_perm conventional wf ss rfl perm.flatten

/-- A document with several things to find about one type and about one field. -/
def wrongNames : Sdl.Document where
  definitions := [
    .type false ⟨"role", ⟨1, 6⟩⟩ (.enum [⟨"admin", ⟨2, 3⟩⟩, ⟨"guest", ⟨3, 3⟩⟩]),
    .type false ⟨"Query", ⟨5, 6⟩⟩ (.object [] [⟨⟨"Roles", ⟨6, 3⟩⟩,
      [⟨⟨"Roles", ⟨6, 9⟩⟩, .named ⟨"Int", ⟨6, 16⟩⟩ false⟩],
      .named ⟨"role", ⟨6, 22⟩⟩ false⟩])]
  origin := none

/-- The batches of `wrongNames` may be joined in any order. -/
theorem lint_joins_batches_wrongNames :
    ∃ table, Table.build wrongNames none = .ok table ∧
      let l : Linter := .standard .default
      l.catalog.orStandard.rules = Catalog.standardRules ∧
      l.catalog.orStandard.Knows l.options ∧
      (∀ order,
        let found := (Run.batches Catalog.standardRules (l.context table)).flatten
        (found.map (SortKey.ofDiagnostic order)).Nodup ∧
        ((found.map l.options.override).map (SortKey.ofDiagnostic order)).Nodup) ∧
      (l.catalog.orStandard.Knows l.options → ∃ rules, l.rules = .ok rules ∧
        l.lint wrongNames none =
          .ok (l.report table (.ofRules rules (l.context table) (l.suppressions wrongNames))) ∧
        ∀ ss,
          let batches := Run.batches rules (l.context table)
          let report := l.report table (.ofRules rules (l.context table) ss)
          report.total + report.suppressed = batches.flatten.length ∧
          ∀ joined, joined.Perm batches →
            l.report table (.ofBatches rules (l.context table) ss joined) = report) := by
  have built : Table.build wrongNames none =
      .ok (.ofTypes wrongNames.types wrongNames.roots "<schema>") := rfl
  have standard : (Linter.standard .default).catalog.orStandard.rules = Catalog.standardRules := rfl
  have known : (Linter.standard .default).catalog.orStandard.Knows .default :=
    ⟨nofun, nofun, nofun⟩
  exact ⟨_, built, standard, known, lint_joins_batches _ standard built⟩

end Linter

end SchemaLint

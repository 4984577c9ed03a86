import Mathlib
import SchemaLint.Proofs.Lint.Batches
import SchemaLint.Proofs.NameMap
import SchemaLint.Proofs.Sdl.TrailingComment
import SchemaLint.Proofs.Suppression.OneRule

/-!
# Ways to silence a rule

There are four ways to be told nothing of a rule: to disable it in the options or in the catalog, to
ignore it everywhere, and to write a directive for the whole file behind the text. All of them give
the report without the diagnostics of the rule, in the same order: `Linter.lintText_without_rule`.
-/

namespace SchemaLint

/-! ## Rules -/

/-- The ids of the standard catalog can be written in a directive. -/
lemma Catalog.isId_of_mem_standardRules {rule : Rule} (mem : rule ∈ standardRules) :
    Suppression.IsId rule.id := by
  have words : ∀ id ∈ standardRules.map (·.id), id ≠ "" ∧ id ≠ Suppression.wildcard ∧
      id.toList.all (!Suppression.isSeparator ·) := by decide +kernel
  obtain ⟨ne_empty, ne_wildcard, joined⟩ := words rule.id (List.mem_map_of_mem mem)
  exact ⟨ne_empty, ne_wildcard, fun c mem => by simpa using List.all_eq_true.1 joined c mem⟩

/-- A catalog that has a rule can disable it, and runs it no longer. -/
lemma Catalog.exists_disable {c : Catalog} {o : Options} {rules : List Rule} {id : String}
    (ok : c.rulesFor o = .ok rules) (registered : id ∈ c.names) :
    ∃ c', c.disable id = .ok c' ∧ c'.orStandard.names = c.names ∧
      c'.orStandard.rulesFor o = .ok (rules.filter (·.id ≠ id)) := by
  have valid : c.validate "rule" [id] = .ok () := validate_eq_ok_iff.2 (by simpa using registered)
  obtain ⟨known, rfl⟩ := rulesFor_eq_ok_iff.1 ok
  -- a catalog without rules would be replaced by the standard one
  have ne : c.rules ≠ [] := fun none => by simp [names, none] at registered
  let c' : Catalog := { c with disabled := id :: c.disabled.filter (· ≠ id) }
  refine ⟨c', by rw [disable, valid], ?_⟩
  rw [orStandard_eq_self (c := c') ne]
  refine ⟨rfl, rulesFor_eq_ok_iff.2 ⟨⟨known.disabled, known.severities, known.ignored⟩, ?_⟩⟩
  rw [enabled, enabled, List.filter_filter, List.filter_filter, List.filter_filter]
  refine List.filter_congr fun rule _ => ?_
  by_cases same : rule.id = id <;> simp [c', same, Bool.and_comm]

/-! ## Linters -/

/-- The outcome is the report without the diagnostics of a rule. It may count other suppressed
diagnostics. -/
def Report.IsWithout (report : Report) (id : String) (outcome : Except Problem Report) : Prop :=
  ∃ suppressed, outcome = .ok ⟨report.diagnostics.filter (·.rule ≠ id), suppressed, report.source⟩

/-- A report of what is left when a rule's findings are taken out is the report without the rule. -/
lemma Report.isWithout_aggregate {order : RuleOrder} {suppressed suppressed' : Nat}
    {source id : String} {ds : List Diagnostic} (marked : (ds.map (·.mark)).Nodup) :
    (aggregate order suppressed source ds).IsWithout id
      (.ok (aggregate order suppressed' source (ds.filter (·.rule ≠ id)))) := by
  have diagnostics :
      (aggregate order suppressed' source (ds.filter (·.rule ≠ id))).diagnostics =
        (aggregate order suppressed source ds).diagnostics.filter (·.rule ≠ id) :=
    diagnostics_aggregate_filter marked _ suppressed'
  exact ⟨suppressed', congrArg (Except.ok <| mk · suppressed' source) diagnostics⟩

namespace Linter

/-- The linters differ only in what they disable and ignore. -/
structure SameBut (l l' : Linter) : Prop where
  options : ∃ disabled ignore, l'.options = { l.options with disabled, ignore }
  judgement : l'.judgement = l.judgement
  names : l'.catalog.orStandard.names = l.catalog.orStandard.names

variable {l l' : Linter} {rules rules' : List Rule} {table : Table} {id : String}
  {d d' : Sdl.Document} {source : Option String}

section
variable (same : l.SameBut l')
include same

/-- No rule reads what is disabled and ignored. -/
lemma SameBut.alike (table : Table) : (l'.context table).Alike (l.context table) := by
  obtain ⟨disabled, ignore, options⟩ := same.options
  rw [context, context, options, same.judgement]
  exact ⟨rfl, rfl, rfl, rfl, rfl, rfl, rfl, rfl, rfl, rfl⟩

/-- Linters that differ in what they silence give the same severities. -/
lemma SameBut.override_eq : l'.options.override = l.options.override := by
  obtain ⟨disabled, ignore, options⟩ := same.options
  rw [options]
  rfl

/-- They find the same. -/
lemma SameBut.found_eq (conventional : Rule.Conventional rules) :
    l'.found rules table = l.found rules table := by
  have batches : (Run.batches rules (l'.context table)).flatten =
      (Run.batches rules (l.context table)).flatten :=
    Run.flatten_batches_congr rfl fun rule mem =>
      Rule.sameIn_of_alike (conventional.standard rule mem) (same.alike table) fun _ => rfl
  rw [found, found, same.override_eq, batches]

end

section
variable (conventional : Rule.Conventional l.catalog.orStandard.rules) (ok : l.rules = .ok rules)
variable (built : Table.build d source = .ok table) {report : Report}
variable (linted : l.lint d source = .ok report) (same : l.SameBut l')
include conventional ok built linted same

/-- Where all that is kept is what was kept but for the diagnostics of a rule, the report is without
them. -/
lemma isWithout_of_kept (ok' : l'.rules = .ok rules') (built' : Table.build d' source = .ok table)
    (kept : (l'.found rules' table).filter (!(l'.suppressions d').silences ·) =
      ((l.found rules table).filter (!(l.suppressions d).silences ·)).filter (·.rule ≠ id)) :
    report.IsWithout id (l'.lint d' source) := by
  -- a disabled rule keeps its place in the order of rules
  have order : RuleOrder.ofCatalog l'.catalog.orStandard = .ofCatalog l.catalog.orStandard := by
    rw [RuleOrder.ofCatalog, RuleOrder.ofCatalog, Catalog.order, Catalog.order, same.names]
  have marked :
      (((l.found rules table).filter (!(l.suppressions d).silences ·)).map (·.mark)).Nodup :=
    nodup_mark_kept (conventional_rules conventional ok) (Table.wellFormed_of_build built) _
  rw [lint_eq_ok ok built, report_ofRules] at linted
  rw [lint_eq_ok ok' built', report_ofRules, kept, order]
  cases linted
  exact Report.isWithout_aggregate marked

/-- A linter that does not run a rule reports all but what the rule finds. -/
lemma isWithout_of_rules (ok' : l'.rules = .ok (rules.filter (·.id ≠ id)))
    (suppressions : l'.suppressions d = l.suppressions d) :
    report.IsWithout id (l'.lint d source) := by
  refine isWithout_of_kept conventional ok built linted same ok' built ?_
  have conventional := (conventional_rules conventional ok).filter (·.id ≠ id)
  rw [suppressions, same.found_eq conventional, l.found_filter rules table (· ≠ id), List.filter_comm]

/-- So does a linter that silences all that the rule finds. -/
lemma isWithout_of_silences (ok' : l'.rules = .ok rules) (built' : Table.build d' source = .ok table)
    (silences : ∀ x ∈ l.found rules table, (l'.suppressions d').silences x =
      ((l.suppressions d).silences x || x.rule == id)) :
    report.IsWithout id (l'.lint d' source) := by
  refine isWithout_of_kept conventional ok built linted same ok' built' ?_
  rw [same.found_eq (conventional_rules conventional ok), List.filter_filter]
  refine List.filter_congr fun x mem => ?_
  rw [silences x mem, Bool.not_or, Bool.and_comm, beq_eq_decide]
  simp

end

/-! ## The four ways -/

/-- The linter with one more rule that its options disable. -/
def disabling (l : Linter) (id : String) : Linter :=
  { l with options := { l.options with disabled := l.options.disabled.add [id] } }

/-- The linter with one more rule that its options ignore, on all paths. -/
def ignoring (l : Linter) (id : String) : Linter :=
  { l with options := { l.options with ignore := l.options.ignore ++ [⟨id, "*"⟩] } }

section
variable (ok : l.rules = .ok rules) (registered : id ∈ l.catalog.orStandard.names)
include ok registered

/-- A linter that disables a rule runs all the others. -/
lemma rules_disabling : (l.disabling id).rules = .ok (rules.filter (·.id ≠ id)) := by
  obtain ⟨known, rfl⟩ := Catalog.rulesFor_eq_ok_iff.1 ok
  refine Catalog.rulesFor_eq_ok_iff.2 ⟨⟨?_, known.severities, known.ignored⟩, ?_⟩
  · intro x mem
    rcases NameSet.mem_names_add.1 mem with mem | mem
    · exact known.disabled x mem
    · cases List.mem_singleton.1 mem
      exact registered
  · rw [List.filter_filter]
    refine List.filter_congr fun rule _ => ?_
    have disabled : (l.disabling id).options.disabled = l.options.disabled.add [id] := rfl
    simp [disabled, NameSet.contains, NameSet.mem_names_add, Bool.and_comm]

/-- A linter that ignores a rule everywhere runs all of them. -/
lemma rules_ignoring : (l.ignoring id).rules = .ok rules := by
  obtain ⟨known, rules_eq⟩ := Catalog.rulesFor_eq_ok_iff.1 ok
  refine Catalog.rulesFor_eq_ok_iff.2 ⟨⟨known.disabled, known.severities, ?_⟩, rules_eq⟩
  intro e mem ne
  rcases List.mem_append.1 mem with mem | mem
  · exact known.ignored e mem ne
  · cases List.mem_singleton.1 mem
    exact registered

end

/-- A linter that ignores a rule everywhere silences all that the rule finds. -/
lemma silences_ignoring (isId : Suppression.IsId id) (x : Diagnostic) :
    ((l.ignoring id).suppressions d).silences x =
      ((l.suppressions d).silences x || x.rule == id) := by
  have suppressions : (l.ignoring id).suppressions d =
      l.suppressions d ++ [.onPath "*" [id]] := by
    simp [suppressions, ignoring]
  rw [suppressions, Suppressions.silences, List.any_append, List.any_cons, List.any_nil,
    Bool.or_false, Suppression.covers_onPath_star isId]
  rfl

/-- So does a directive for the whole file at the end of the text. -/
lemma silences_directive (isId : Suppression.IsId id) {name : String} {tokens : List Sdl.Token}
    {t : Sdl.Position} (origin : d.origin = some ⟨name, tokens⟩)
    (origin' : d'.origin =
      some ⟨name, tokens ++ [⟨.comment (" gqlstyle-ignore-file " ++ id), t⟩]⟩) (x : Diagnostic) :
    (l.suppressions d').silences x = ((l.suppressions d).silences x || x.rule == id) := by
  rw [suppressions, suppressions, Suppressions.ofDocument, Suppressions.ofDocument, origin, origin']
  dsimp only
  rw [Suppression.ofTokens_concat_directive isId, Suppressions.silences, Suppressions.silences,
    List.any_append, List.any_append, List.any_append, List.any_cons, List.any_nil, Bool.or_false,
    Suppression.covers_everywhere isId, Bool.or_right_comm]

/-- Nothing is found about a document without definitions. -/
lemma found_eq_nil (empty : d.definitions = []) (built : Table.build d source = .ok table) :
    l.found rules table = [] := by
  obtain ⟨definitions, origin⟩ := d
  cases empty
  obtain ⟨-, rfl⟩ := Table.build_eq_ok_iff.1 built
  rw [found, Run.flatten_batches]
  rfl

/-- Of the document only the definitions matter to a table whose source is given. -/
lemma build_of_definitions {name : String} (same : d'.definitions = d.definitions)
    (built : Table.build d (some name) = .ok table) : Table.build d' (some name) = .ok table := by
  rw [Table.build_eq_ok_iff, ← Violation.all_eq_nil_iff] at built ⊢
  obtain ⟨definitions, origin⟩ := d
  obtain ⟨definitions', origin'⟩ := d'
  cases same
  exact built

/-- A schema text that gets a report gets the report without the diagnostics of a rule, in the same
order, in each of four ways: if the options disable the rule, if the catalog does, if the options
ignore it on all paths, and if the text ends with a directive for the whole file. -/
theorem lintText_without_rule (l : Linter) {text source id : String} {report : Report}
    (conventional : Rule.Conventional l.catalog.orStandard.rules)
    (registered : id ∈ l.catalog.orStandard.names)
    (linted : l.lintText text source = .ok report) :
    report.IsWithout id ((l.disabling id).lintText text source) ∧
    (∃ c, l.catalog.orStandard.disable id = .ok c ∧
      report.IsWithout id (lintText { l with catalog := c } text source)) ∧
    report.IsWithout id ((l.ignoring id).lintText text source) ∧
    report.IsWithout id (l.lintText (text ++ "\n# gqlstyle-ignore-file " ++ id) source) := by
  obtain ⟨d, schema, linted⟩ := bind_eq_ok_iff.1 linted
  obtain ⟨rules, ok, made⟩ := bind_eq_ok_iff.1 linted
  obtain ⟨table, built, -⟩ := bind_eq_ok_iff.1 made
  have isId : Suppression.IsId id := by
    obtain ⟨rule, mem, rfl⟩ := List.mem_map.1 registered
    exact Catalog.isId_of_mem_standardRules (conventional.standard rule mem)
  have lintText_eq (l' : Linter) : l'.lintText text source = l'.lint d (some source) := by
    rw [lintText, schema]
    rfl
  refine ⟨?_, ?_, ?_, ?_⟩
  · -- disabled in the options
    rw [lintText_eq]
    exact isWithout_of_rules conventional ok built linted ⟨⟨_, _, rfl⟩, rfl, rfl⟩
      (rules_disabling ok registered) rfl
  · -- disabled in the catalog
    obtain ⟨c, disabled, names, rules⟩ := Catalog.exists_disable ok registered
    refine ⟨c, disabled, ?_⟩
    rw [lintText_eq]
    exact isWithout_of_rules conventional ok built linted ⟨⟨_, _, rfl⟩, rfl, names⟩ rules rfl
  · -- ignored on all paths
    rw [lintText_eq]
    exact isWithout_of_silences conventional ok built linted ⟨⟨_, _, rfl⟩, rfl, rfl⟩
      (rules_ignoring ok registered) built fun x _ => silences_ignoring isId x
  · -- silenced by a directive
    obtain ⟨d', schema', definitions, origins⟩ :=
      Sdl.Document.exists_ofText_append (Suppression.ne_newline_of_isId isId) schema
    have comment : text ++ "\n# gqlstyle-ignore-file " ++ id =
        text ++ "\n#" ++ (" gqlstyle-ignore-file " ++ id) := by
      have word : "\n# gqlstyle-ignore-file " = "\n#" ++ " gqlstyle-ignore-file " := rfl
      simp only [word, String.append_assoc]
    rw [lintText, comment, schema']
    refine isWithout_of_silences conventional ok built linted ⟨⟨_, _, rfl⟩, rfl, rfl⟩ ok
      (build_of_definitions definitions built) ?_
    rcases origins with empty | ⟨tokens, t, origin, origin'⟩
    · -- the directive of a document without definitions is not seen, and nothing is found in it
      rw [found_eq_nil empty built]
      exact nofun
    · exact fun x _ => silences_directive isId origin origin' x

/-- A schema with one violation. -/
def lowerCase : String := "scalar date"

/-- The report of `lowerCase`. -/
def lowerCaseReport : Report where
  diagnostics := [⟨"TypeCasing", .error, "Type 'date' should be PascalCase",
    ⟨"date", none, none, 1, 8⟩, some "Date"⟩]
  suppressed := 0
  source := "date.graphql"

/-- The violation of `lowerCase` is silenced in four ways. -/
theorem lintText_without_rule_lowerCase :
    let l : Linter := .standard .default
    (Rule.Conventional l.catalog.orStandard.rules ∧
      "TypeCasing" ∈ l.catalog.orStandard.names ∧
      l.lintText lowerCase "date.graphql" = .ok lowerCaseReport) ∧
    lowerCaseReport.IsWithout "TypeCasing"
      ((l.disabling "TypeCasing").lintText lowerCase "date.graphql") ∧
    (∃ c, l.catalog.orStandard.disable "TypeCasing" = .ok c ∧
      lowerCaseReport.IsWithout "TypeCasing"
        (lintText { l with catalog := c } lowerCase "date.graphql")) ∧
    lowerCaseReport.IsWithout "TypeCasing"
      ((l.ignoring "TypeCasing").lintText lowerCase "date.graphql") ∧
    lowerCaseReport.IsWithout "TypeCasing"
      (l.lintText (lowerCase ++ "\n# gqlstyle-ignore-file " ++ "TypeCasing") "date.graphql") := by
  intro l
  have conventional : Rule.Conventional l.catalog.orStandard.rules := .standardRules
  have registered : "TypeCasing" ∈ l.catalog.orStandard.names := by decide
  have linted : l.lintText lowerCase "date.graphql" = .ok lowerCaseReport :=
    toOption_eq_some_iff.1 (by decide +kernel)
  exact ⟨⟨conventional, registered, linted⟩,
    lintText_without_rule l conventional registered linted⟩

end Linter

end SchemaLint

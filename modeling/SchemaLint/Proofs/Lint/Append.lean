import Mathlib
import SchemaLint.Proofs.Lint.Batches
import SchemaLint.Proofs.Outcome
import SchemaLint.Proofs.Schema.Append

/-!
# Linting documents with further definitions

Rules consult more than the type that they look at: the root types, the results of mutations, the kinds
of types, the usages of types. Even so definitions that have nothing to do with those before do not
change what is found about these: `Linter.lint_append`.
-/

namespace SchemaLint

open Sdl (Definition)

open Sdl.Document (Apart declaredName? ofDefinitions)

/-! ## Rules -/

/-- What rules find about an entity is in the type of the entity. -/
lemma Dispatch.typeName_of_mem_check {rules : List Rule} (conventional : Rule.Conventional rules)
    {context : Context} {e : Entity} (wf : e.WellFormed) {x : Diagnostic}
    (mem : x ∈ (ofRules rules).check context e) :
    x.location.typeName = (Location.ofEntity e).typeName := by
  obtain ⟨rule, memRule, -, mem⟩ := Dispatch.exists_rule mem
  obtain ⟨f, memF, rfl⟩ := List.mem_map.1 mem
  exact Rule.typeName_of_mem_findings (conventional.standard rule memRule) wf memF

section
variable {table table' : Table} {more : List TypeDef} (wf : table.WellFormed)
  (grows : table.GrowsTo table' more) {t : TypeDef} (mem : t ∈ table.types)
include wf grows mem

/-- A type is judged an entity by its shape alike when the table grows. -/
lemma Judgement.entityByShape_of_growsTo (wrappers : List String) :
    entityByShape wrappers table' t = entityByShape wrappers table t := by
  have leaves : t.fields.any (fun f => f.name ≠ "id" && table'.isLeaf f.type.name) =
      t.fields.any fun f => f.name ≠ "id" && table.isLeaf f.type.name := by
    rw [Bool.eq_iff_iff, List.any_eq_true, List.any_eq_true]
    refine exists_congr fun f => and_congr_right fun memF => ?_
    rw [Table.isLeaf, Table.isLeaf, grows.kindOf?_type_eq wf mem memF]
  rw [entityByShape, entityByShape, leaves, Table.isRoot_congr grows.roots, grows.mutationResults]

/-- The same is wrong with the result of a mutation when the table grows. -/
lemma Rule.resultProblems_of_growsTo {f : Field} (memF : f ∈ t.fields) :
    resultProblems table' f = resultProblems table f := by
  rw [resultProblems, resultProblems, grows.get?_type_eq wf mem memF]
  cases found : table.get? f.type.name with
  | none => rfl
  | some result =>
    have isErrorList : (result.field? "errors").any (isErrorList table') =
        (result.field? "errors").any (isErrorList table) := by
      cases errors : result.field? "errors" with
      | none => rfl
      | some g =>
        have memResult : result ∈ table.types := List.mem_of_find?_eq_some found
        have memG : g ∈ result.fields := List.mem_of_find?_eq_some errors
        rw [Option.any_some, Option.any_some, Rule.isErrorList, Rule.isErrorList,
          grows.kindOf?_type_eq wf memResult memG]
    simp only [isErrorList]

end

namespace Linter

variable {l : Linter} {rules : List Rule} {table table' : Table} {more : List TypeDef}

/-- What rules read about an entity of the smaller table is the same in both. -/
lemma agreesFor_of_growsTo (byNames : l.judgement = none) (wf : table.WellFormed)
    (grows : table.GrowsTo table' more) {e : Entity} (mem : e ∈ table.entities) (id : String) :
    (l.context table').AgreesFor id (l.context table) e where
  roots := grows.roots
  isPlural _ := rfl
  suffixes _ := rfl
  usages _ t eq := by
    subst eq
    have found := wf.get?_eq_some (Table.type_mem_entities mem)
    exact grows.usages t.name (by rw [Table.declares, found]; rfl)
  allowed _ := rfl
  repeats _ f _ := by
    rw [context, context, byNames]
    simp only [Option.getD_none, Judgement.ofNames, Judgement.repeatsByName,
      Table.isRoot_congr grows.roots]
  verbs _ := rfl
  results _ f eq := by
    subst eq
    obtain ⟨t, memT, memF⟩ := Table.field_mem_entities mem
    exact Rule.resultProblems_of_growsTo wf grows memT memF
  isEntity _ t eq := by
    subst eq
    rw [context, context, byNames]
    exact Judgement.entityByShape_of_growsTo wf grows (Table.type_mem_entities mem) _
  policy _ := rfl
  prefixes _ := rfl

/-- What is found of an entity of a type is found in that type. -/
lemma typeName_of_mem_found (conventional : Rule.Conventional rules) (wf : table.WellFormed)
    {t : TypeDef} (memT : t ∈ table.types) {e : Entity} (memE : e ∈ t.entities) {x : Diagnostic}
    (mem : x ∈ (Dispatch.ofRules rules).check (l.context table) e) :
    x.location.typeName = t.name := by
  have listed : e ∈ table.entities := List.mem_flatMap.2 ⟨t, memT, memE⟩
  rw [Dispatch.typeName_of_mem_check conventional (wf.entity listed) mem]
  exact (wf.types t memT).typeName_of_mem_entities memE

/-- What is found in the types of the smaller table is what is found in that table. -/
lemma found_of_growsTo (byNames : l.judgement = none) (conventional : Rule.Conventional rules)
    (wf : table.WellFormed) (wf' : table'.WellFormed) (grows : table.GrowsTo table' more) :
    (l.found rules table').filter (table.declares ·.location.typeName) = l.found rules table := by
  have location (x : Diagnostic) : (l.options.override x).location = x.location := by
    rw [Options.override_eq]
  have before : (table.types.flatMap TypeDef.entities).flatMap
        ((Dispatch.ofRules rules).check (l.context table')) =
      table.entities.flatMap ((Dispatch.ofRules rules).check (l.context table)) := by
    refine List.flatMap_congr fun e mem => Dispatch.check_congr fun rule memRule => ?_
    exact Rule.sameAt_of_agreesFor (conventional.standard rule memRule)
      (agreesFor_of_growsTo byNames wf grows mem rule.id)
  have kept : (table.entities.flatMap ((Dispatch.ofRules rules).check (l.context table))).filter
        (table.declares ·.location.typeName) =
      table.entities.flatMap ((Dispatch.ofRules rules).check (l.context table)) := by
    refine List.filter_eq_self.2 fun x mem => ?_
    obtain ⟨e, memE, mem⟩ := List.mem_flatMap.1 mem
    obtain ⟨t, memT, memE⟩ := List.mem_flatMap.1 memE
    rw [typeName_of_mem_found conventional wf memT memE mem]
    exact Table.declares_iff.2 (List.mem_map_of_mem memT)
  have dropped : ((more.flatMap TypeDef.entities).flatMap
        ((Dispatch.ofRules rules).check (l.context table'))).filter
        (table.declares ·.location.typeName) = [] := by
    refine List.filter_eq_nil_iff.2 fun x mem => ?_
    obtain ⟨e, memE, mem⟩ := List.mem_flatMap.1 mem
    obtain ⟨t, memT, memE⟩ := List.mem_flatMap.1 memE
    have memT' : t ∈ table'.types := grows.types ▸ List.mem_append_right _ memT
    rw [typeName_of_mem_found conventional wf' memT' memE mem]
    exact (grows.fresh t memT).1
  rw [found_eq_flatMap, found_eq_flatMap, List.filter_map, Table.entities, grows.types,
    List.flatMap_append, List.flatMap_append]
  simp only [Function.comp_def, location, List.filter_append]
  rw [before, kept, dropped, List.append_nil]

/-- The report of definitions and others behind them that are apart from them holds, in the types of
the first ones, the diagnostics of the report of these alone, in the same order. -/
theorem lint_append (l : Linter) (ds es : List Definition) {source : Option String}
    {report report' : Report} (conventional : Rule.Conventional l.catalog.orStandard.rules)
    (byNames : l.judgement = none) (apart : Apart ds es)
    (linted : l.lint (ofDefinitions ds) source = .ok report)
    (linted' : l.lint (ofDefinitions (ds ++ es)) source = .ok report') :
    report'.diagnostics.filter
        (fun x => (ds.filterMap declaredName?).contains x.location.typeName) =
      report.diagnostics := by
  obtain ⟨rules, ok, made⟩ := bind_eq_ok_iff.1 linted
  obtain ⟨table, built, -⟩ := bind_eq_ok_iff.1 made
  obtain ⟨_, ok', made'⟩ := bind_eq_ok_iff.1 linted'
  obtain ⟨table', built', -⟩ := bind_eq_ok_iff.1 made'
  cases ok.symm.trans ok'
  rw [lint_eq_ok ok built, report_ofRules] at linted
  rw [lint_eq_ok ok built', report_ofRules] at linted'
  cases linted
  cases linted'
  have conventional := conventional_rules conventional ok
  have wf := Table.wellFormed_of_build built
  have wf' := Table.wellFormed_of_build built'
  have grows := Table.growsTo_of_build apart built built'
  have suppressions : l.suppressions (ofDefinitions (ds ++ es)) = l.suppressions (ofDefinitions ds) :=
    rfl
  -- a part of what is kept makes a part of the report, whatever is counted as suppressed
  rw [suppressions, ← Report.diagnostics_aggregate_filter
    (nodup_mark_kept conventional wf' (l.suppressions (ofDefinitions ds))) _
    ((l.found rules table).countP (l.suppressions (ofDefinitions ds)).silences)]
  simp only [← Table.declares_of_build built]
  rw [List.filter_comm, found_of_growsTo byNames conventional wf wf' grows, grows.source]

/-- Two types, of which one has a name in the wrong letter case. -/
def zones : List Definition :=
  [.type false ⟨"Zone", .unknown⟩ .scalar,
    .type false ⟨"area", .unknown⟩ (.enum [⟨"NORTH", .unknown⟩])]

/-- A type that uses one of the types of `zones`, with several things to find about it. -/
def places : List Definition :=
  [.type false ⟨"Places", .unknown⟩ (.object []
    [⟨⟨"Area", .unknown⟩, [⟨⟨"since", .unknown⟩, .named ⟨"Int", .unknown⟩ false⟩],
      .named ⟨"area", .unknown⟩ false⟩])]

/-- The report of `zones`. -/
def zonesReport : Report where
  diagnostics := [⟨"TypeCasing", .error, "Type 'area' should be PascalCase",
    ⟨"area", none, none, 0, 0⟩, some "Area"⟩]
  suppressed := 0
  source := "<schema>"

/-- What is found in `zones` is found in `zones` and `places` too. -/
theorem lint_append_places :
    let l : Linter := .standard .default
    (Rule.Conventional l.catalog.orStandard.rules ∧ l.judgement = none ∧ Apart zones places ∧
      l.lint (ofDefinitions zones) none = .ok zonesReport) ∧
    ∃ report', l.lint (ofDefinitions (zones ++ places)) none = .ok report' ∧
      report'.diagnostics.filter
          (fun x => (zones.filterMap declaredName?).contains x.location.typeName) =
        zonesReport.diagnostics := by
  intro l
  have conventional : Rule.Conventional l.catalog.orStandard.rules := .standardRules
  have apart : Apart zones places := by
    refine ⟨by decide +kernel, by decide +kernel, fun e p roots => by simp [places], ?_⟩
    intro e name body mem f memF a memA
    obtain ⟨rfl, rfl, rfl⟩ : e = false ∧ name = ⟨"Places", .unknown⟩ ∧ body = _ := by
      simpa [places] using mem
    cases List.mem_singleton.1 memF
    cases List.mem_singleton.1 memA
    decide +kernel
  have linted : l.lint (ofDefinitions zones) none = .ok zonesReport :=
    toOption_eq_some_iff.1 (by decide +kernel)
  have ok : l.rules = .ok _ := Catalog.rulesFor_eq_ok_iff.2 ⟨⟨nofun, nofun, nofun⟩, rfl⟩
  have built : Table.build (ofDefinitions (zones ++ places)) none = .ok _ := rfl
  have linted' := lint_eq_ok ok built
  exact ⟨⟨conventional, rfl, apart, linted⟩, _, linted',
    lint_append l zones places conventional rfl apart linted linted'⟩

end Linter

end SchemaLint

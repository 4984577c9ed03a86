import Mathlib
import SchemaLint.Json.Reader
import SchemaLint.Proofs.Distinct
import SchemaLint.Report.Sarif

/-!
# Places of rules in a log

A log is written call by call, and a result names its rule by a place in a list that goes on growing.
Rules are only ever added at the end, so a place that was right once stays right: in the finished log
each result, the early ones included, leads to its rule: `SarifLog.result_refers`.
-/

namespace SchemaLint

namespace SarifLog

/-- A diagnostic that is added to a log, with the name of its source. -/
structure Call where
  source : String
  diagnostic : Diagnostic

/-- The log of some calls, one after the other. -/
def ofCalls (catalog : Catalog) (calls : List Call) : SarifLog :=
  calls.foldl (fun log call => log.add catalog call.source call.diagnostic) empty

/-- The ids of the rules that a log lists. -/
def ids (log : SarifLog) : List String := log.rules.map (·.id)

variable {catalog : Catalog} {log : SarifLog} {calls : List Call}

/-! ## Writing a log -/

/-- The rule that is described under an id has the id. -/
lemma id_ruleOf (catalog : Catalog) (id : String) : (ruleOf catalog id).id = id := by
  unfold ruleOf
  split
  · rfl
  · rfl

/-- A diagnostic adds its rule to the end of the list, unless it is there. -/
lemma ids_add (catalog : Catalog) (source : String) (log : SarifLog) (d : Diagnostic) :
    (add catalog source log d).ids = if d.rule ∈ log.ids then log.ids else log.ids ++ [d.rule] := by
  have listed : log.rules.any (·.id == d.rule) = true ↔ d.rule ∈ log.ids := by
    rw [List.any_eq_true, ids, List.mem_map]
    simp only [beq_iff_eq]
  unfold add
  by_cases mem : d.rule ∈ log.ids
  · rw [if_pos mem]
    simp only [if_pos (listed.2 mem)]
    rfl
  · rw [if_neg mem]
    simp only [if_neg (mt listed.1 mem), ids, List.map_append, List.map_singleton, id_ruleOf]

/-- The rules of a log stay at their places. -/
lemma ids_prefix_add (catalog : Catalog) (source : String) (log : SarifLog) (d : Diagnostic) :
    log.ids <+: (add catalog source log d).ids := by
  rw [ids_add]
  split
  · exact List.prefix_rfl
  · exact List.prefix_append _ _

/-- The rule of a diagnostic is among those of the log to which the diagnostic is added. -/
lemma rule_mem_ids_add (catalog : Catalog) (source : String) (log : SarifLog) (d : Diagnostic) :
    d.rule ∈ (add catalog source log d).ids := by
  rw [ids_add]
  split
  · assumption
  · exact List.mem_append_right _ (List.mem_singleton_self _)

/-- The place at which a rule is found is its own. -/
lemma getElem?_findIdx {rules : List SarifRule} {id : String} (mem : id ∈ rules.map (·.id)) :
    (rules.map (·.id))[rules.findIdx (fun rule => rule.id == id)]? = some id := by
  obtain ⟨rule, memRule, same⟩ := List.mem_map.1 mem
  have lt : rules.findIdx (fun rule => rule.id == id) < rules.length :=
    List.findIdx_lt_length_of_exists ⟨rule, memRule, beq_iff_eq.2 same⟩
  have found : (rules[rules.findIdx (fun rule => rule.id == id)].id == id) = true :=
    List.findIdx_getElem (w := lt)
  rw [List.getElem?_map, List.getElem?_eq_getElem lt, Option.map_some, beq_iff_eq.1 found]

/-- The result of a call in a log: it names the place of its rule. -/
def IsResultOf (log : SarifLog) (call : Call) (result : Nat × Json) : Prop :=
  log.ids[result.1]? = some call.diagnostic.rule ∧
    result.2 = resultJson result.1 call.diagnostic call.source

/-- The log tells of the calls: the rules are those of the calls in the order of first use, and there
is one result a call. -/
structure Tells (log : SarifLog) (calls : List Call) : Prop where
  ids : log.ids = (calls.map (·.diagnostic.rule)).eraseDups
  results : List.Forall₂ log.IsResultOf calls log.results

/-- What is added to a log takes no result its rule. -/
lemma IsResultOf.add {call : Call} {result : Nat × Json} (is_result : log.IsResultOf call result)
    (catalog : Catalog) (source : String) (d : Diagnostic) :
    (SarifLog.add catalog source log d).IsResultOf call result := by
  obtain ⟨place, eq⟩ := is_result
  obtain ⟨more, ids⟩ := ids_prefix_add catalog source log d
  refine ⟨?_, eq⟩
  have lt : result.1 < log.ids.length := (List.getElem?_eq_some_iff.1 place).1
  rw [← ids, List.getElem?_append_left lt, place]

/-- One more call is told of by one more result. -/
lemma Tells.add (tells : log.Tells calls) (call : Call) :
    (SarifLog.add catalog call.source log call.diagnostic).Tells (calls ++ [call]) := by
  refine ⟨?_, ?_⟩
  · rw [ids_add, List.map_append, List.map_singleton, eraseDups_concat, tells.ids]
    simp only [List.mem_eraseDups]
  · have earlier := tells.results.imp fun {call' result} is_result =>
      is_result.add catalog call.source call.diagnostic
    refine List.rel_append earlier ?_
    refine .cons ⟨?_, rfl⟩ .nil
    exact getElem?_findIdx (rule_mem_ids_add catalog call.source log call.diagnostic)

/-- More calls are told behind those that a log tells, by induction on them. -/
lemma tells_foldl (tells : log.Tells calls) (more : List Call) :
    (more.foldl (fun log call => log.add catalog call.source call.diagnostic) log).Tells
      (calls ++ more) := by
  induction more generalizing log calls with
  | nil =>
    rw [List.append_nil]
    exact tells
  | cons call more ih =>
    rw [List.append_cons]
    exact ih (tells.add call)

/-- A log tells the calls that it is made of. -/
lemma tells_ofCalls (catalog : Catalog) (calls : List Call) :
    (ofCalls catalog calls).Tells calls := by
  have start : empty.Tells [] := ⟨rfl, .nil⟩
  exact tells_foldl start calls

/-! ## Reading a log -/

/-- The elements of the array that a member holds. -/
def elements? (x : Json) (key : String) : Option (List Json) :=
  match x.get? key with
  | some (.arr elements) => some elements
  | _ => none

/-- The only run of a log. -/
def run? (log : Json) : Option Json :=
  match elements? log "runs" with
  | some [run] => some run
  | _ => none

/-- The rules of a log. -/
def rules? (log : Json) : Option (List Json) := do
  let driver ← (← (← run? log).get? "tool").get? "driver"
  elements? driver "rules"

/-- The results of a log. -/
def results? (log : Json) : Option (List Json) := do elements? (← run? log) "results"

/-- The rules of a finished log are those of the log. -/
lemma rules?_toJson (log : SarifLog) : rules? log.toJson = some (log.rules.map ruleJson) := rfl

/-- The results of a finished log are those of the log. -/
lemma results?_toJson (log : SarifLog) : results? log.toJson = some (log.results.map (·.2)) := rfl

/-- A rule is found by its id. -/
lemma get?_id_ruleJson (rule : SarifRule) : (ruleJson rule).get? "id" = some (.str rule.id) := rfl

/-- A result names its rule. -/
lemma get?_ruleId_resultJson (index : Nat) (d : Diagnostic) (source : String) :
    (resultJson index d source).get? "ruleId" = some (.str d.rule) := by
  unfold resultJson
  cases d.fix with
  | none => rfl
  | some _ => rfl

/-- A result points to its rule. -/
lemma get?_ruleIndex_resultJson (index : Nat) (d : Diagnostic) (source : String) :
    (resultJson index d source).get? "ruleIndex" = some (.int index) := by
  unfold resultJson
  cases d.fix with
  | none => rfl
  | some _ => rfl

/-- A finished log lists the rules of its calls, each once and in the order of first use, and has one
result a call in the order of the calls. Each result names its rule and a place in the list, at which
that rule stands. -/
theorem result_refers (catalog : Catalog) (calls : List Call) :
    let used := (calls.map (·.diagnostic.rule)).eraseDups
    ∃ rules results,
      rules? (ofCalls catalog calls).toJson = some rules ∧
      results? (ofCalls catalog calls).toJson = some results ∧
      rules.map (·.get? "id") = used.map (fun id => some (.str id)) ∧ used.Nodup ∧
      List.Forall₂ (fun (call : Call) (result : Json) => ∃ index : Nat,
        result = resultJson index call.diagnostic call.source ∧
        result.get? "ruleId" = some (.str call.diagnostic.rule) ∧
        result.get? "ruleIndex" = some (.int index) ∧
        ∃ rule, rules[index]? = some rule ∧
          rule.get? "id" = some (.str call.diagnostic.rule)) calls results := by
  intro used
  obtain ⟨ids, told⟩ := tells_ofCalls catalog calls
  refine ⟨_, _, rules?_toJson _, results?_toJson _, ?_, nodup_eraseDups _, ?_⟩
  · have used_eq : used = (ofCalls catalog calls).ids := ids.symm
    rw [used_eq, SarifLog.ids, List.map_map, List.map_map]
    exact List.map_congr_left fun rule _ => get?_id_ruleJson rule
  · rw [List.forall₂_map_right_iff]
    refine told.imp ?_
    rintro call ⟨index, result⟩ ⟨place, eq⟩
    dsimp only at place eq ⊢
    subst eq
    rw [SarifLog.ids, List.getElem?_map, Option.map_eq_some_iff] at place
    obtain ⟨rule, found, same⟩ := place
    refine ⟨index, rfl, get?_ruleId_resultJson _ _ _, get?_ruleIndex_resultJson _ _ _,
      ruleJson rule, ?_, ?_⟩
    · rw [List.getElem?_map, found]
      rfl
    · rw [get?_id_ruleJson, same]

end SarifLog

end SchemaLint

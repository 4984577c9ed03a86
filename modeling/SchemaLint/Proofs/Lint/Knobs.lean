import Mathlib
import SchemaLint.Proofs.Lint.Batches

/-!
# Knobs of the linter

What tunes a linter, apart from the rules that it disables, the severities that it gives and what it
ignores, is the three answers of its judgement and its options. Each of these knobs governs few rules
or none: turning it changes nothing of what the other rules find: `Linter.run_turned`. An answer of the
judgement that is always left open silences the rules that it governs.
-/

namespace SchemaLint

/-- What tunes what the rules of the convention find. -/
inductive Knob where
  | plurality | entity | redundancy
  | verbs | allowed | suffixes | policy | prefixes | jobs
  deriving DecidableEq

/-- The rules that a knob governs, by id. -/
def Knob.governed : Knob → List String
  | plurality => ["TypeSingular", "FieldPlurality"]
  | entity => ["IdFieldPresence"]
  | redundancy | allowed => ["FieldRedundantName"]
  | verbs => ["MutationNaming"]
  | suffixes => ["InputSuffix"]
  | policy | prefixes => ["BooleanFieldPrefix"]
  | jobs => []

namespace Linter

/-- The judgement that the linter goes by: its own, or the one by names, which reads the options. -/
def judge (l : Linter) : Judgement := l.judgement.getD (.ofNames l.options.allowed.names)

/-- The linters differ in one knob only. The judgement by names repeats fewer names if more of them
are allowed, so what is repeated may also differ with the allowed names. -/
structure Turned (knob : Knob) (l l' : Linter) : Prop where
  catalog : l'.catalog = l.catalog
  disabled : l'.options.disabled = l.options.disabled
  severities : l'.options.severities = l.options.severities
  ignore : l'.options.ignore = l.options.ignore
  verbs : knob ≠ .verbs → l'.options.verbs = l.options.verbs
  allowed : knob ≠ .allowed → l'.options.allowed = l.options.allowed
  suffixes : knob ≠ .suffixes → l'.options.suffixes = l.options.suffixes
  policy : knob ≠ .policy → l'.options.policy = l.options.policy
  prefixes : knob ≠ .prefixes → l'.options.prefixes = l.options.prefixes
  jobs : knob ≠ .jobs → l'.options.jobs = l.options.jobs
  isPlural : knob ≠ .plurality → l'.judge.isPlural = l.judge.isPlural
  isEntity : knob ≠ .entity → l'.judge.isEntity = l.judge.isEntity
  repeats : knob ≠ .redundancy → knob ≠ .allowed → l'.judge.repeats = l.judge.repeats

variable {knob : Knob} {l l' : Linter} {rules : List Rule} {table : Table}

/-! ## Other rules -/

/-- A rule that the knob does not govern answers the same. -/
lemma Turned.sameIn (turned : Turned knob l l') {rule : Rule} (mem : rule ∈ Catalog.standardRules)
    (free : rule.id ∉ knob.governed) : rule.SameIn (l'.context table) (l.context table) := by
  have ne {k : Knob} (governed : rule.id ∈ k.governed) : knob ≠ k := by
    rintro rfl
    exact free governed
  have only {id : String} {k : Knob} (governs : k.governed = [id]) (eq : rule.id = id) : knob ≠ k :=
    ne (by rw [governs, eq]; exact List.mem_singleton_self id)
  refine Rule.sameIn_iff.2 fun e => Rule.sameAt_of_agreesFor mem ?_
  exact {
    roots := rfl
    isPlural := fun id => turned.isPlural (ne id)
    suffixes := fun id => turned.suffixes (only rfl id)
    usages := fun _ _ _ => rfl
    allowed := fun id => turned.allowed (only rfl id)
    repeats := fun id f _ =>
      congrFun (congrFun (turned.repeats (only rfl id) (only rfl id)) table) f
    verbs := fun id => turned.verbs (only rfl id)
    results := fun _ _ _ => rfl
    isEntity := fun id t _ => congrFun (congrFun (turned.isEntity (only rfl id)) table) t
    policy := fun id => turned.policy (only rfl id)
    prefixes := fun id => turned.prefixes (only rfl id) }

/-- To turn a knob changes no severity. -/
lemma Turned.override_eq (turned : Turned knob l l') : l'.options.override = l.options.override := by
  funext x
  rw [Options.override_eq, Options.override_eq, turned.severities]

/-- What the rules find is the same but for those that the knob governs. -/
lemma Turned.found_filter (turned : Turned knob l l') (conventional : Rule.Conventional rules) :
    (l'.found rules table).filter (!knob.governed.contains ·.rule) =
      (l.found rules table).filter (!knob.governed.contains ·.rule) := by
  rw [← l'.found_filter rules table (!knob.governed.contains ·),
    ← l.found_filter rules table (!knob.governed.contains ·), found, found, turned.override_eq]
  congr 1
  refine Run.flatten_batches_congr rfl fun rule mem => ?_
  obtain ⟨mem, free⟩ := List.mem_filter.1 mem
  exact turned.sameIn (conventional.standard rule mem) (by simpa using free)

/-! ## Answers that are left open -/

/-- What is found of some rules is nothing if these find nothing. -/
lemma rule_not_mem_of_nothing (conventional : Rule.Conventional rules) {ids : List String}
    (nothing : ∀ rule ∈ Catalog.standardRules, rule.id ∈ ids →
      ∀ e, rule.check? (l.context table) e = .nothing) {x : Diagnostic}
    (mem : x ∈ l.found rules table) : x.rule ∉ ids := by
  intro governed
  rw [found_eq_flatMap] at mem
  obtain ⟨y, memY, rfl⟩ := List.mem_map.1 mem
  obtain ⟨e, -, memY⟩ := List.mem_flatMap.1 memY
  obtain ⟨rule, memRule, -, memY⟩ := Dispatch.exists_rule memY
  rw [Options.override_eq, Rule.rule_of_mem_diagnostics memY] at governed
  rw [Rule.diagnostics, nothing rule (conventional.standard rule memRule) governed] at memY
  cases memY

end Linter

namespace Rule

variable {c : Context} {e : Entity}

/-- A rule of the convention is told by its id. -/
lemma eq_of_id_eq {rule rule' : Rule} (mem : rule ∈ Catalog.standardRules)
    (mem' : rule' ∈ Catalog.standardRules) (same : rule.id = rule'.id) : rule = rule' :=
  List.inj_on_of_nodup_map Conventional.standardRules.distinct mem mem' same

/-- The rules that ask for judgements are in the standard catalog. -/
lemma mem_standardRules_of_judgement :
    typeSingular ∈ Catalog.standardRules ∧ fieldPlurality ∈ Catalog.standardRules ∧
      idFieldPresence ∈ Catalog.standardRules ∧ fieldRedundantName ∈ Catalog.standardRules := by
  simp [Catalog.standardRules]

/-- The rule on singular types finds nothing if nobody knows what is plural. -/
lemma check?_typeSingular (undecided : ∀ word, c.judgement.isPlural word = none) :
    typeSingular.check? c e = .nothing := by
  cases e with
  | field _ => rfl
  | argument _ => rfl
  | type t =>
    simp only [typeSingular, onTypes, checkTypes]
    split
    · rfl
    · rename_i last _
      rw [undecided last]
      rfl

/-- The rule on the plurality of fields finds nothing if nobody knows what is plural. -/
lemma check?_fieldPlurality (undecided : ∀ word, c.judgement.isPlural word = none) :
    fieldPlurality.check? c e = .nothing := by
  cases e with
  | type _ => rfl
  | argument _ => rfl
  | field f =>
    have plural : Word.isPluralName c.judgement.isPlural f.name = none := by
      rw [Word.isPluralName, Option.bind_eq_none_iff]
      exact fun word _ => undecided word
    simp [fieldPlurality, onFields, checkFields, plural]

/-- The rule on identifiers finds nothing if nobody knows what is an entity. -/
lemma check?_idFieldPresence (undecided : ∀ t, c.judgement.isEntity c.table t = none) :
    idFieldPresence.check? c e = .nothing := by
  cases e with
  | field _ => rfl
  | argument _ => rfl
  | type t => simp [idFieldPresence, onTypes, checkTypes, undecided t]

/-- The rule on redundant names finds nothing if nobody knows what a field repeats. -/
lemma check?_fieldRedundantName (undecided : ∀ f, c.judgement.repeats c.table f = none) :
    fieldRedundantName.check? c e = .nothing := by
  cases e with
  | type _ => rfl
  | argument _ => rfl
  | field f => simp [fieldRedundantName, onFields, checkFields, undecided f]

/-! A rule of the convention that an answer of the judgement governs is one of those above. -/

section
variable {rule : Rule} (mem : rule ∈ Catalog.standardRules)
include mem

/-- Rules that the plurality governs find nothing if nobody knows what is plural. -/
lemma check?_of_plurality (governed : rule.id ∈ Knob.plurality.governed)
    (undecided : ∀ word, c.judgement.isPlural word = none) : rule.check? c e = .nothing := by
  obtain ⟨memType, memField, -⟩ := mem_standardRules_of_judgement
  obtain same | same := List.mem_pair.1 governed
  · rw [eq_of_id_eq mem memType same, check?_typeSingular undecided]
  · rw [eq_of_id_eq mem memField same, check?_fieldPlurality undecided]

/-- Rules that entities govern find nothing if nobody knows what is an entity. -/
lemma check?_of_entity (governed : rule.id ∈ Knob.entity.governed)
    (undecided : ∀ t, c.judgement.isEntity c.table t = none) : rule.check? c e = .nothing := by
  obtain ⟨-, -, memEntity, -⟩ := mem_standardRules_of_judgement
  rw [eq_of_id_eq mem memEntity (List.mem_singleton.1 governed), check?_idFieldPresence undecided]

/-- Rules that redundancy governs find nothing if nobody knows what a field repeats. -/
lemma check?_of_redundancy (governed : rule.id ∈ Knob.redundancy.governed)
    (undecided : ∀ f, c.judgement.repeats c.table f = none) : rule.check? c e = .nothing := by
  obtain ⟨-, -, -, memRedundancy⟩ := mem_standardRules_of_judgement
  rw [eq_of_id_eq mem memRedundancy (List.mem_singleton.1 governed),
    check?_fieldRedundantName undecided]

end

end Rule

namespace Linter

variable {l l' : Linter} {knob : Knob}

/-- Turning a knob leaves the rules of a run as they are. -/
lemma Turned.rules_eq (turned : Turned knob l l') : l'.rules = l.rules := by
  simp only [rules, Catalog.rulesFor, Catalog.idsOf, Options.ignoreRules, turned.catalog,
    turned.disabled, turned.severities, turned.ignore]

/-- Two linters that differ in one knob run the same rules, and those of them that the knob does not
govern find the same. The number of workers, which governs none, does not show. If an answer of the
judgement is always left open, the rules that it governs find nothing. -/
theorem run_turned (table : Table) (ss : Suppressions)
    (conventional : Rule.Conventional l.catalog.orStandard.rules)
    (known : l.catalog.orStandard.Knows l.options) (turned : Turned knob l l') :
    ∃ run run', l.run table ss = .ok run ∧ l'.run table ss = .ok run' ∧
      run'.kept.filter (!knob.governed.contains ·.rule) =
        run.kept.filter (!knob.governed.contains ·.rule) ∧
      (knob = .jobs → run' = run) ∧
      ((∀ word, l.judge.isPlural word = none) →
        ∀ x ∈ run.kept, x.rule ∉ Knob.plurality.governed) ∧
      ((∀ t, l.judge.isEntity table t = none) → ∀ x ∈ run.kept, x.rule ∉ Knob.entity.governed) ∧
      ((∀ f, l.judge.repeats table f = none) →
        ∀ x ∈ run.kept, x.rule ∉ Knob.redundancy.governed) := by
  obtain ⟨rules, ok⟩ : ∃ rules, l.rules = .ok rules :=
    ⟨_, Catalog.rulesFor_eq_ok_iff.2 ⟨known, rfl⟩⟩
  have conventional := conventional_rules conventional ok
  have found : (l'.found rules table).filter (!knob.governed.contains ·.rule) =
      (l.found rules table).filter (!knob.governed.contains ·.rule) :=
    turned.found_filter conventional
  refine ⟨.ofRules rules (l.context table) ss, .ofRules rules (l'.context table) ss,
    by rw [run, ok]; rfl, by rw [run, turned.rules_eq, ok]; rfl, ?_, ?_, ?_, ?_, ?_⟩
  · rw [ofRules_eq, ofRules_eq, List.filter_comm, found, List.filter_comm]
  · rintro rfl
    have all : ∀ ds : List Diagnostic, ds.filter (!Knob.jobs.governed.contains ·.rule) = ds :=
      fun ds => List.filter_eq_self.2 fun _ _ => rfl
    rw [all, all] at found
    rw [ofRules_eq, ofRules_eq, found]
  all_goals
    intro undecided x kept
    rw [ofRules_eq] at kept
    refine rule_not_mem_of_nothing conventional ?_ (List.mem_of_mem_filter kept)
    intro rule mem governed e
  · exact Rule.check?_of_plurality mem governed undecided
  · exact Rule.check?_of_entity mem governed undecided
  · exact Rule.check?_of_redundancy mem governed undecided

/-- A table of one type, whose name is a plural. -/
def pluralTable : Table :=
  .ofTypes [⟨"Users", .object,
    [⟨"name", "Users", ⟨"String", true, 0, none, "String"⟩, [], ⟨2, 3⟩⟩], [], [], [], ⟨1, 6⟩⟩] []
    "<schema>"

/-- A linter that takes no word for a plural or a singular. -/
def undecided : Linter :=
  ⟨.default, .standard, some { Judgement.ofNames Options.default.allowed.names with
    isPlural := fun _ => none }⟩

/-- Linters that differ in what they take for a plural find the same in `pluralTable` but for that. -/
theorem run_turned_undecided :
    (Rule.Conventional undecided.catalog.orStandard.rules ∧
      undecided.catalog.orStandard.Knows undecided.options ∧
      Turned .plurality undecided (.standard .default)) ∧
    ∃ run run', undecided.run pluralTable [] = .ok run ∧
      (Linter.standard .default).run pluralTable [] = .ok run' ∧
      run'.kept.filter (!Knob.plurality.governed.contains ·.rule) =
        run.kept.filter (!Knob.plurality.governed.contains ·.rule) ∧
      ∀ x ∈ run.kept, x.rule ∉ Knob.plurality.governed := by
  have conventional : Rule.Conventional undecided.catalog.orStandard.rules := .standardRules
  have known : undecided.catalog.orStandard.Knows undecided.options := ⟨nofun, nofun, nofun⟩
  have turned : Turned .plurality undecided (.standard .default) :=
    ⟨rfl, rfl, rfl, rfl, fun _ => rfl, fun _ => rfl, fun _ => rfl, fun _ => rfl, fun _ => rfl,
      fun _ => rfl, nofun, fun _ => rfl, fun _ _ => rfl⟩
  refine ⟨⟨conventional, known, turned⟩, ?_⟩
  obtain ⟨run, run', ok, ok', same, -, silent, -⟩ :=
    run_turned pluralTable [] conventional known turned
  exact ⟨run, run', ok, ok', same, silent fun _ => rfl⟩

end Linter

end SchemaLint

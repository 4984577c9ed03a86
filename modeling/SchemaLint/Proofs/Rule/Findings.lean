import Mathlib
import SchemaLint.Proofs.Report.Marks
import SchemaLint.Proofs.Schema.WellFormed

/-!
# Findings of one rule

A rule of the convention finds at most one thing about an entity, and that at the entity itself.
`enumValueCasing` alone finds several: one for each value of an enum, at the value. So the names of
the place and the message tell all findings of a rule apart, whatever the options and the judgement
are: `Rule.mark_ne_of_apart` for two entities and `Rule.pairwise_mark` for one.
-/

namespace SchemaLint

/-! ## Places -/

/-- The names of the place of a finding, and its message. -/
def Finding.mark (f : Finding) : (String × String × String) × String := (f.location.names, f.message)

/-- What a rule finds about an entity. -/
def Rule.findings (rule : Rule) (context : Context) (e : Entity) : List Finding :=
  (rule.check? context e).getD []

/-- Two entities of one kind are at places of different names. -/
def Entity.Apart (e e' : Entity) : Prop :=
  e.kind = e'.kind → (Location.ofEntity e).names ≠ (Location.ofEntity e').names

/-- The parts of a type are its own. -/
def Entity.WellFormed : Entity → Prop
  | .type t => t.WellFormed
  | .field _ | .argument _ => True

/-! ## Entities of a table -/

namespace TypeDef

variable {t : TypeDef}

/-- All entities of a well-formed type are at places in it. -/
lemma WellFormed.typeName_of_mem_entities (wf : t.WellFormed) {e : Entity} (mem : e ∈ t.entities) :
    (Location.ofEntity e).typeName = t.name := by
  rcases List.mem_cons.1 mem with rfl | mem
  · rfl
  · obtain ⟨f, memF, mem⟩ := List.mem_flatMap.1 mem
    rcases List.mem_cons.1 mem with rfl | mem
    · exact (wf.fields f memF).owner_eq
    · obtain ⟨a, memA, rfl⟩ := List.mem_map.1 mem
      exact ((wf.fields f memF).arguments a memA).1

/-- A field and its arguments are at different places. -/
lemma pairwise_apart_field {owner : String} {f : Field} (wf : f.WellFormed owner) :
    (Entity.field f :: f.arguments.map .argument).Pairwise Entity.Apart := by
  refine List.pairwise_cons.2 ⟨fun e mem => ?_, ?_⟩
  · obtain ⟨a, -, rfl⟩ := List.mem_map.1 mem
    exact nofun
  · refine List.pairwise_map.2 ((List.pairwise_map.1 wf.argumentsDistinct).imp ?_)
    intro a a' ne _ same
    simp only [Location.names, Location.ofEntity, Option.getD_some, Prod.mk.injEq] at same
    exact ne same.2.2

/-- The entities of a type are at different places. -/
lemma WellFormed.pairwise_apart (wf : t.WellFormed) : t.entities.Pairwise Entity.Apart := by
  refine List.pairwise_cons.2 ⟨fun e mem => ?_, List.pairwise_flatMap.2 ⟨fun f mem => ?_, ?_⟩⟩
  · obtain ⟨f, -, mem⟩ := List.mem_flatMap.1 mem
    rcases List.mem_cons.1 mem with rfl | mem
    · exact nofun
    · obtain ⟨a, -, rfl⟩ := List.mem_map.1 mem
      exact nofun
  · exact pairwise_apart_field (wf.fields f mem)
  · -- entities of two fields are at places of different field names
    have fieldName : ∀ f ∈ t.fields, ∀ e ∈ Entity.field f :: f.arguments.map .argument,
        (Location.ofEntity e).names.2.1 = f.name := by
      intro f memF e mem
      rcases List.mem_cons.1 mem with rfl | mem
      · rfl
      · obtain ⟨a, memA, rfl⟩ := List.mem_map.1 mem
        exact ((wf.fields f memF).arguments a memA).2
    refine (List.pairwise_map.1 wf.fieldsDistinct).imp_of_mem ?_
    intro f f' memF memF' ne e mem e' mem' _ same
    rw [← fieldName f memF e mem, ← fieldName f' memF' e' mem', same] at ne
    exact ne rfl

end TypeDef

namespace Table

variable {table : Table}

/-- A type that is walked over is one of the table. -/
lemma type_mem_entities {t : TypeDef} (mem : .type t ∈ table.entities) : t ∈ table.types := by
  obtain ⟨t', memT, mem⟩ := List.mem_flatMap.1 mem
  rcases List.mem_cons.1 mem with eq | mem
  · cases eq
    exact memT
  · obtain ⟨f, -, mem⟩ := List.mem_flatMap.1 mem
    simp at mem

/-- A field that is walked over is one of a type of the table. -/
lemma field_mem_entities {f : Field} (mem : .field f ∈ table.entities) :
    ∃ t ∈ table.types, f ∈ t.fields := by
  obtain ⟨t, memT, mem⟩ := List.mem_flatMap.1 mem
  rcases List.mem_cons.1 mem with eq | mem
  · cases eq
  · obtain ⟨f', memF, mem⟩ := List.mem_flatMap.1 mem
    rcases List.mem_cons.1 mem with eq | mem
    · cases eq
      exact ⟨t, memT, memF⟩
    · simp at mem

/-- All fields of the types of a table are walked over. -/
lemma mem_entities_of_mem_fields {t : TypeDef} (memT : t ∈ table.types) {f : Field}
    (memF : f ∈ t.fields) : .field f ∈ table.entities :=
  List.mem_flatMap.2 ⟨t, memT,
    List.mem_cons_of_mem _ (List.mem_flatMap.2 ⟨f, memF, List.mem_cons_self⟩)⟩

namespace WellFormed

variable (wf : table.WellFormed)
include wf

/-- The parts of all entities of a well-formed table are their own. -/
lemma entity {e : Entity} (mem : e ∈ table.entities) : e.WellFormed := by
  cases e with
  | field _ => trivial
  | argument _ => trivial
  | type t => exact wf.types t (type_mem_entities mem)

/-- All entities of a well-formed table are apart. -/
lemma pairwise_apart : table.entities.Pairwise Entity.Apart := by
  refine List.pairwise_flatMap.2 ⟨fun t mem => (wf.types t mem).pairwise_apart, ?_⟩
  refine (List.pairwise_map.1 wf.typesDistinct).imp_of_mem ?_
  intro t t' memT memT' ne e mem e' mem' _ same
  rw [← (wf.types t memT).typeName_of_mem_entities mem,
    ← (wf.types t' memT').typeName_of_mem_entities mem'] at ne
  exact ne (congrArg (·.1) same)

end WellFormed

end Table

/-! ## At most one finding -/

/-- If these are findings, there is at most one, and it is at the entity. -/
def Findings.Sole (e : Entity) (findings : Findings) : Prop :=
  ∀ fs, findings = some fs → fs = [] ∨ ∃ message fix, fs = [⟨message, fix, .ofEntity e⟩]

namespace Findings

variable {e : Entity}

/-- Nothing is at most one finding. -/
lemma sole_nothing : Sole e .nothing := by
  rintro fs ⟨⟩
  exact .inl rfl

/-- One finding is at most one finding. -/
lemma sole_one (message : String) (fix : Option String) : Sole e (.one e message fix) := by
  rintro fs ⟨⟩
  exact .inr ⟨message, fix, rfl⟩

/-- What depends on a first or last thing is sole if it is so for any such thing. -/
lemma sole_bind {α : Type} {first? : Option α} {findings : α → Findings}
    (sole : ∀ x, Sole e (findings x)) : Sole e (first? >>= findings) := by
  intro fs eq
  obtain ⟨x, -, eq⟩ := Option.bind_eq_some_iff.1 eq
  exact sole x fs eq

/-- A choice between at most one finding and at most one is at most one. -/
lemma sole_ite {p : Prop} [Decidable p] {findings findings' : Findings} (sole : Sole e findings)
    (sole' : Sole e findings') : Sole e (if p then findings else findings') := by
  split
  · exact sole
  · exact sole'

end Findings

/-- A rule that looks at one kind of entities and finds at most one thing about each of them. -/
structure Rule.Solitary (rule : Rule) : Prop where
  kind : ∃ k, rule.targets = [k]
  sole : ∀ context e, Findings.Sole e (rule.check? context e)

namespace Rule

open Findings

section
variable {id description : String} {severity : Severity} {heuristic : Bool}

/-- A rule about types is solitary if its check finds at most one thing. -/
lemma solitary_onTypes {kinds : TypeKind → Bool} {check : Context → TypeDef → Findings}
    (sole : ∀ context t, Sole (.type t) (check context t)) :
    (onTypes id description severity heuristic kinds check).Solitary where
  kind := ⟨.type, rfl⟩
  sole context e :=
    match e with
    | .type t => sole context t
    | .field _ => sole_nothing
    | .argument _ => sole_nothing

/-- A rule for fields is solitary if it finds at most one thing about each field. -/
lemma solitary_onFields {applies : Context → Field → Bool} {check : Context → Field → Findings}
    (sole : ∀ context f, Sole (.field f) (check context f)) :
    (onFields id description severity heuristic applies check).Solitary where
  kind := ⟨.field, rfl⟩
  sole context e :=
    match e with
    | .type _ => sole_nothing
    | .field f => sole context f
    | .argument _ => sole_nothing

/-- So is a rule for the fields of a root. -/
lemma solitary_onRootFields {operation : Sdl.Operation} {applies : Field → Bool}
    {check : Context → Field → Findings} (sole : ∀ context f, Sole (.field f) (check context f)) :
    (onRootFields id description operation applies check).Solitary :=
  solitary_onFields sole

end

/-! ### Names of types -/

/-- The rule on the case of types finds one thing about a type. -/
lemma solitary_typeCasing : typeCasing.Solitary :=
  solitary_onTypes fun _ _ => sole_ite sole_nothing (sole_one _ _)

/-- The rule on singular types finds one thing about a type. -/
lemma solitary_typeSingular : typeSingular.Solitary := by
  refine solitary_onTypes fun _ _ => ?_
  split
  · exact sole_nothing
  · exact sole_ite (sole_one _ _) sole_nothing

/-- The rule on suffixes for kinds finds one thing about a type, as the first suffix counts. -/
lemma solitary_typeKindSuffix : typeKindSuffix.Solitary := by
  refine solitary_onTypes fun _ _ => ?_
  dsimp only
  split
  · exact sole_nothing
  · exact sole_one _ _

/-- The rule on the suffix of input types finds one thing about a type. -/
lemma solitary_inputSuffix : inputSuffix.Solitary :=
  solitary_onTypes fun _ _ => sole_ite sole_nothing (sole_bind fun _ => sole_one _ _)

/-- The rule on filters finds one thing about a type, as the first usage counts. -/
lemma solitary_filterSuffix : filterSuffix.Solitary :=
  solitary_onTypes fun _ _ =>
    sole_ite sole_nothing (sole_ite sole_nothing (sole_bind fun _ => sole_one _ _))

/-! ### Names of fields -/

/-- The rule on the plurality of fields finds one thing about a field. -/
lemma solitary_fieldPlurality : fieldPlurality.Solitary :=
  solitary_onFields fun _ _ =>
    sole_ite (sole_ite (sole_bind fun _ => sole_one _ _) sole_nothing)
      (sole_ite (sole_one _ _) sole_nothing)

/-- The rule on redundant names finds one thing about a field. -/
lemma solitary_fieldRedundantName : fieldRedundantName.Solitary := by
  refine solitary_onFields fun _ _ => sole_ite sole_nothing ?_
  split
  · exact sole_nothing
  · exact sole_one _ _

/-- The rule on truth values finds one thing about a field. -/
lemma solitary_booleanFieldPrefix : booleanFieldPrefix.Solitary := by
  refine solitary_onFields fun _ _ => ?_
  dsimp only
  split
  · exact sole_one _ _
  · exact sole_one _ _
  · exact sole_nothing

/-! ### Mutations and queries -/

/-- The rule on the names of mutations finds one thing about a field. -/
lemma solitary_mutationNaming : mutationNaming.Solitary :=
  solitary_onRootFields fun _ _ => sole_ite sole_nothing (sole_one _ _)

/-- The rule on results of mutations finds one thing about a field. -/
lemma solitary_mutationResultShape : mutationResultShape.Solitary := by
  refine solitary_onRootFields fun _ _ => ?_
  split
  · exact sole_nothing
  · exact sole_one _ _

/-- The rule on creating mutations finds one thing about a field. -/
lemma solitary_createMutationShape : createMutationShape.Solitary := by
  have complaint : ∀ f draft, Sole (.field f) (createMutationShape.complain f draft) :=
    fun _ _ => sole_one _ _
  exact solitary_onRootFields fun _ _ =>
    sole_ite (sole_bind fun _ => sole_ite sole_nothing (complaint _ _)) (complaint _ _)

/-- The rule on deleting mutations finds one thing about a field. -/
lemma solitary_deleteMutationShape : deleteMutationShape.Solitary :=
  solitary_onRootFields fun _ _ => sole_ite sole_nothing (sole_one _ _)

/-- The rule on collections finds one thing about a field. -/
lemma solitary_collectionQueryShape : collectionQueryShape.Solitary :=
  solitary_onRootFields fun _ _ => sole_ite sole_nothing (sole_one _ _)

/-- The rule on look-ups finds one thing about a field. -/
lemma solitary_byIdQueryShape : byIdQueryShape.Solitary :=
  solitary_onRootFields fun _ _ => sole_ite sole_nothing (sole_one _ _)

/-! ### Parts of types -/

/-- The rule on identifiers finds one thing about a type. -/
lemma solitary_idFieldPresence : idFieldPresence.Solitary := by
  refine solitary_onTypes fun _ _ => sole_ite ?_ sole_nothing
  split
  · exact sole_one _ _
  · exact sole_ite sole_nothing (sole_one _ _)

end Rule

/-- The rules of the convention are solitary, but for `fieldCasing`, which looks at two kinds of
entities, and `enumValueCasing`, which looks at several values. -/
lemma Catalog.solitary_or_of_mem_standardRules {rule : Rule} (mem : rule ∈ standardRules) :
    rule.Solitary ∨ rule = .fieldCasing ∨ rule = .enumValueCasing := by
  revert rule
  simp only [standardRules, List.forall_mem_cons]
  exact ⟨.inl Rule.solitary_typeCasing, .inl Rule.solitary_typeSingular,
    .inl Rule.solitary_typeKindSuffix, .inl Rule.solitary_inputSuffix,
    .inl Rule.solitary_filterSuffix, .inr (.inl trivial), .inl Rule.solitary_fieldPlurality,
    .inl Rule.solitary_fieldRedundantName, .inl Rule.solitary_mutationNaming,
    .inl Rule.solitary_mutationResultShape, .inl Rule.solitary_createMutationShape,
    .inl Rule.solitary_deleteMutationShape, .inl Rule.solitary_collectionQueryShape,
    .inl Rule.solitary_byIdQueryShape, .inl Rule.solitary_idFieldPresence, .inr (.inr trivial),
    .inl Rule.solitary_booleanFieldPrefix, nofun⟩

/-! ## Marks -/

namespace Rule

variable {rule : Rule} {context : Context} {e e' : Entity} {f f' : Finding}

section
variable (sole : Findings.Sole e (rule.check? context e))
include sole

/-- What a rule finds that finds at most one thing is at the entity. -/
lemma location_of_sole (mem : f ∈ rule.findings context e) : f.location = .ofEntity e := by
  rw [findings] at mem
  cases eq : rule.check? context e with
  | none => simp [eq] at mem
  | some fs =>
    rw [eq, Option.getD_some] at mem
    rcases sole fs eq with rfl | ⟨message, fix, rfl⟩
    · cases mem
    · rw [List.mem_singleton.1 mem]

/-- What a rule finds that finds at most one thing is told apart. -/
lemma pairwise_mark_of_sole :
    (rule.findings context e).Pairwise fun f f' => f.mark ≠ f'.mark := by
  rw [findings]
  cases eq : rule.check? context e with
  | none => exact .nil
  | some fs =>
    rcases sole fs eq with rfl | ⟨message, fix, rfl⟩
    · exact .nil
    · exact List.pairwise_singleton _ _

end

/-- The rule on the case of fields finds at most one thing about an entity. -/
lemma sole_fieldCasing : Findings.Sole e (fieldCasing.check? context e) :=
  Findings.sole_ite Findings.sole_nothing (Findings.sole_one _ _)

/-- What `fieldCasing` finds about an entity tells whether it is an argument. -/
lemma message_of_mem_findings_fieldCasing (mem : f ∈ fieldCasing.findings context e) :
    f.message.toList.head? = some (if e.kind = .argument then 'A' else 'F') := by
  rw [findings, fieldCasing] at mem
  dsimp only at mem
  split at mem
  · cases mem
  · cases List.mem_singleton.1 mem
    split
    · simp [String.toList_append, toString]
    · simp [String.toList_append, toString]

/-- What the rule on the case of values finds is at a value of the type. -/
lemma location_of_mem_findings_enumValueCasing (mem : f ∈ enumValueCasing.findings context e) :
    ∃ t v, e = .type t ∧ v ∈ t.values ∧ f.location = .ofEnumValue v := by
  cases e with
  | field _ => cases mem
  | argument _ => cases mem
  | type t =>
    obtain ⟨v, memV, rfl⟩ := List.mem_map.1 mem
    exact ⟨t, v, rfl, List.mem_of_mem_filter memV, rfl⟩

/-- What a rule of the convention finds about an entity is in the type of the entity. -/
lemma typeName_of_mem_findings (mem : rule ∈ Catalog.standardRules) (wf : e.WellFormed)
    (memF : f ∈ rule.findings context e) :
    f.location.typeName = (Location.ofEntity e).typeName := by
  rcases Catalog.solitary_or_of_mem_standardRules mem with solitary | rfl | rfl
  · rw [location_of_sole (solitary.sole context e) memF]
  · rw [location_of_sole sole_fieldCasing memF]
  · obtain ⟨t, v, rfl, memV, location⟩ := location_of_mem_findings_enumValueCasing memF
    rw [location]
    exact wf.values v memV

/-- What a rule of the convention finds about one entity differs in its mark. -/
lemma pairwise_mark (mem : rule ∈ Catalog.standardRules) (wf : e.WellFormed) :
    (rule.findings context e).Pairwise fun f f' => f.mark ≠ f'.mark := by
  rcases Catalog.solitary_or_of_mem_standardRules mem with solitary | rfl | rfl
  · exact pairwise_mark_of_sole (solitary.sole context e)
  · exact pairwise_mark_of_sole sole_fieldCasing
  · cases e with
    | field _ => exact .nil
    | argument _ => exact .nil
    | type t =>
      -- the values of an enum have different names
      refine List.pairwise_map.2 (List.Pairwise.filter _ ?_)
      refine (List.pairwise_map.1 wf.valuesDistinct).imp fun {v v'} ne same => ne ?_
      exact congrArg (·.1.2.1) same

/-- What a rule of the convention finds about two entities of its kinds at different places differs
in its mark. -/
lemma mark_ne_of_apart (mem : rule ∈ Catalog.standardRules) (target : e.kind ∈ rule.targets)
    (target' : e'.kind ∈ rule.targets) (wf : e.WellFormed) (wf' : e'.WellFormed)
    (apart : e.Apart e') (memF : f ∈ rule.findings context e)
    (memF' : f' ∈ rule.findings context e') : f.mark ≠ f'.mark := by
  intro same
  have names : f.location.names = f'.location.names := congrArg (·.1) same
  rcases Catalog.solitary_or_of_mem_standardRules mem with solitary | rfl | rfl
  · -- entities of one kind, at which the findings are
    obtain ⟨k, kinds⟩ := solitary.kind
    rw [kinds, List.mem_singleton] at target target'
    rw [location_of_sole (solitary.sole context e) memF,
      location_of_sole (solitary.sole context e') memF'] at names
    exact apart (target.trans target'.symm) names
  · by_cases kinds : e.kind = e'.kind
    · rw [location_of_sole sole_fieldCasing memF, location_of_sole sole_fieldCasing memF'] at names
      exact apart kinds names
    · -- one of them is a field and the other one an argument
      have first : f.message.toList.head? = f'.message.toList.head? :=
        congrArg (·.2.toList.head?) same
      rw [message_of_mem_findings_fieldCasing memF,
        message_of_mem_findings_fieldCasing memF'] at first
      have two : ∀ {k : EntityKind}, k ∈ fieldCasing.targets → k = .field ∨ k = .argument := by
        simp [fieldCasing]
      rcases two target with eq | eq <;> rcases two target' with eq' | eq' <;>
        simp_all
  · -- values of enums, which name their types
    obtain ⟨t, v, rfl, memV, location⟩ := location_of_mem_findings_enumValueCasing memF
    obtain ⟨t', v', rfl, memV', location'⟩ := location_of_mem_findings_enumValueCasing memF'
    rw [location, location'] at names
    have owner : v.owner = v'.owner := congrArg (·.1) names
    rw [wf.values v memV, wf'.values v' memV'] at owner
    refine apart rfl ?_
    simp [Location.names, Location.ofEntity, owner]

end Rule

end SchemaLint

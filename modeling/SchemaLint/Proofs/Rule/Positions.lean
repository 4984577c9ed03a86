import Mathlib
import SchemaLint.Proofs.Lint.Batches

/-!
# Positions that rules look at

Rules look at the first or last of several words, suffixes, prefixes, arguments and usages. That there
is one is seen to elsewhere: by a test in front, by the answer of a helper, or by what options are
valid. Here every such look has no answer if there is nothing at the position, and so has every rule
that takes it. A strict run of all rules has an answer nevertheless, that of the run itself:
`StrictRule.run?_standard`.
-/

namespace SchemaLint

/-! ## Words -/

namespace Word

/-- The first word of a name and what is left behind as many characters, looked up if there is any
word. -/
def verbAndObject? (name : String) : Option (String × String) :=
  let words := split name
  if words.isEmpty then some ("", "")
  else do
    let verb ← words.head?
    return (verb, String.ofList (name.toList.drop verb.length))

/-- The plurality of the last word, looked up if there is any. -/
def isPluralName? (isPlural : String → Option Bool) (name : String) : Option (Option Bool) :=
  let words := split name
  if words.isEmpty then some none else words.getLast?.map isPlural

/-- The text ends with a `y` behind a consonant, which is looked up in texts of several letters. -/
def endsConsonantY? (lower : List Char) : Option Bool :=
  if endsLower lower "y" && decide (1 < lower.length) then
    lower.reverse[1]?.map fun c => !(c ∈ ['a', 'e', 'i', 'o', 'u'])
  else some false

/-- The plural of a word, by what is looked up of its end. -/
def plural? (word : String) : Option String := do
  let lower := (Unicode.lower word).toList
  if ← endsConsonantY? lower then return String.ofList word.toList.dropLast ++ "ies"
  else if ["s", "x", "z", "ch", "sh"].any (endsLower lower) then return word ++ "es"
  else return word ++ "s"

/-- The first word is looked up only where there is one. -/
lemma verbAndObject?_eq (name : String) : verbAndObject? name = some (verbAndObject name) := by
  rw [verbAndObject?, verbAndObject, split]
  cases splitChars name.toList with
  | nil => rfl
  | cons verb words => simp

/-- The last word is looked up only where there is one. -/
lemma isPluralName?_eq (isPlural : String → Option Bool) (name : String) :
    isPluralName? isPlural name = some (isPluralName isPlural name) := by
  rw [isPluralName?, isPluralName]
  rcases List.eq_nil_or_concat (split name) with words | ⟨front, last, words⟩
  · rw [words]
    rfl
  · simp [words]

/-- The letter in front of a `y` is looked up only in texts that have one. -/
lemma endsConsonantY?_eq (lower : List Char) :
    endsConsonantY? lower = some (endsLower lower "y" &&
      lower.reverse[1]?.any fun c => !(c ∈ ['a', 'e', 'i', 'o', 'u'])) := by
  rw [endsConsonantY?]
  cases before : lower.reverse[1]? with
  | none =>
    have short : ¬1 < lower.length := by
      rw [List.getElem?_eq_none_iff, List.length_reverse] at before
      omega
    simp [short]
  | some c =>
    have long : 1 < lower.length := by
      rw [← List.length_reverse]
      exact (List.getElem?_eq_some_iff.1 before).1
    cases endsLower lower "y" <;> simp [long]

/-- The plural of a word can be looked up for any word. -/
lemma plural?_eq (word : String) : plural? word = some (plural word) := by
  rw [plural?, endsConsonantY?_eq, plural, Option.bind_eq_bind, Option.bind_some]
  split_ifs <;> rfl

/-- A name may have no first and no last word, and then none is looked up. -/
example : (split "_").head? = none ∧ (split "_").getLast? = none ∧
    verbAndObject? "_" = some ("", "") ∧ isPluralName? (fun _ => some true) "_" = some none := by
  decide +kernel

end Word

/-! ## Rules -/

/-- A rule with a test and a check that have no answer if nothing is at a position that they look
at. -/
structure StrictRule where
  rule : Rule
  appliesTo? : Context → Entity → Option Bool
  check? : Context → Entity → Findings

namespace StrictRule

/-- A rule that looks at positions in its check only, where it has no answer already. -/
def ofRule (rule : Rule) : StrictRule :=
  ⟨rule, fun context e => some (rule.appliesTo context e), rule.check?⟩

/-- The test of fields of a root type, as a test of entities. -/
def testServed (operation : Sdl.Operation) (test? : Field → Option Bool) (context : Context) :
    Entity → Option Bool
  | .field f => (test? f).map fun fits => servesOperation operation context f && fits
  | _ => some false

/-- The field is named by the verb and an object. -/
def hasVerb? (verb : String) (f : Field) : Option Bool := do
  let (v, object) ← Word.verbAndObject? f.name
  return v == verb && Word.startsUpper object

/-- The only argument of the field is an id, which is looked up if there is one argument. -/
def isLookup? (f : Field) : Option Bool :=
  if f.type.isList then some false
  else if f.arguments.length = 1 then
    f.arguments.head?.map fun sole => sole.name == "id" && sole.type.isRequired "ID"
  else some false

/-- The first word of a name if it is one of the prefixes, looked up if there are several words. -/
def leadingPrefix? (prefixes : List String) (name : String) : Option (Option String) :=
  let words := Word.split name
  if 1 < words.length then
    words.head?.map fun first => if prefixes.contains first then some first else none
  else some none

/-- The check looks at the last word of the name without its role. -/
def typeSingular : StrictRule where
  rule := .typeSingular
  appliesTo? context e := some (Rule.typeSingular.appliesTo context e)
  check? := checkTypes fun context t =>
    let words := Word.split (Word.stripSuffix Word.roleSuffixes t.name)
    if words.isEmpty then .nothing
    else do
      let last ← words.getLast?
      if context.judgement.isPlural last = some true then
        Findings.one (.type t) s!"Type '{t.name}' should be singular ('{last}' looks plural)"
      else Findings.nothing

/-- The check looks at the last word for its plurality, and again for its plural. -/
def fieldPlurality : StrictRule where
  rule := .fieldPlurality
  appliesTo? context e := some (Rule.fieldPlurality.appliesTo context e)
  check? := checkFields fun context f => do
    let plural ← Word.isPluralName? context.judgement.isPlural f.name
    if f.type.isList then
      if plural = some false then
        let last ← (Word.split f.name).getLast?
        let fix ← Word.plural? last
        Findings.one (.field f) s!"List field '{f.name}' should have a plural name"
          (some (Word.dropEnding f.name last.length ++ fix))
      else Findings.nothing
    else if plural = some true ∧
        !(["Connection", "Page"].any (Word.endsWith f.type.name)) then
      Findings.one (.field f)
        s!"Field '{f.name}' returns a single '{f.type.text}' and should have a singular name"
    else Findings.nothing

/-- The check looks at the first word. -/
def mutationNaming : StrictRule where
  rule := .mutationNaming
  appliesTo? context e := some (Rule.mutationNaming.appliesTo context e)
  check? := checkFields fun context f => do
    let (verb, object) ← Word.verbAndObject? f.name
    if context.options.verbs.contains verb && Word.startsUpper object then Findings.nothing
    else
      let list := ", ".intercalate context.options.verbs.names
      Findings.one (.field f)
        (s!"Mutation '{f.name}' should be named <verb><Object> " ++ s!"with a verb from: {list}")
        (if Word.startsUpper object then
          (Rule.allowedSynonym? context.options verb).map (· ++ object)
        else none)

/-- The test looks at the first word, and the check at the only argument too. -/
def createMutationShape : StrictRule where
  rule := .createMutationShape
  appliesTo? := testServed .mutation (hasVerb? "create")
  check? := checkFields fun _ f => do
    let (_, object) ← Word.verbAndObject? f.name
    let draft := object ++ "Draft"
    if f.arguments.length = 1 then
      let sole ← f.arguments.head?
      if sole.name == "draft" && sole.type.isRequired draft then Findings.nothing
      else Rule.createMutationShape.complain f draft
    else Rule.createMutationShape.complain f draft

/-- The test looks at the first word. -/
def deleteMutationShape : StrictRule where
  rule := .deleteMutationShape
  appliesTo? := testServed .mutation (hasVerb? "delete")
  check? := Rule.deleteMutationShape.check?

/-- The test looks at the only argument. -/
def byIdQueryShape : StrictRule where
  rule := .byIdQueryShape
  appliesTo? := testServed .query isLookup?
  check? := Rule.byIdQueryShape.check?

/-- The check looks at the first word and at the first prefix. -/
def booleanFieldPrefix : StrictRule where
  rule := .booleanFieldPrefix
  appliesTo? context e := some (Rule.booleanFieldPrefix.appliesTo context e)
  check? := checkFields fun context f => do
    let prefixes := context.options.prefixes
    let leading ← leadingPrefix? prefixes f.name
    match context.options.policy, leading with
    | .require, none =>
      let list := ", ".intercalate prefixes
      let fix ←
        if prefixes.isEmpty then some none
        else prefixes.head?.map fun first => some (first ++ Word.capitalized f.name)
      Findings.one (.field f) s!"Boolean field '{f.name}' should start with one of: {list}" fix
    | .forbid, some word =>
      Findings.one (.field f) s!"Boolean field '{f.name}' should not start with '{word}'"
        (some (Word.uncapitalized (String.ofList (f.name.toList.drop word.length))))
    | _, _ => Findings.nothing

/-- The rules of the convention. -/
def standard : List StrictRule :=
  [ofRule .typeCasing, typeSingular, ofRule .typeKindSuffix, ofRule .inputSuffix,
    ofRule .filterSuffix, ofRule .fieldCasing, fieldPlurality, ofRule .fieldRedundantName,
    mutationNaming, ofRule .mutationResultShape, createMutationShape, deleteMutationShape,
    ofRule .collectionQueryShape, byIdQueryShape, ofRule .idFieldPresence,
    ofRule .enumValueCasing, booleanFieldPrefix]

/-- The answers of the rule are there, and they are those of the rule itself. -/
structure Agrees (s : StrictRule) : Prop where
  appliesTo : ∀ context e, s.appliesTo? context e = some (s.rule.appliesTo context e)
  check : ∀ context e, s.check? context e = s.rule.check? context e
  answers : ∀ context e, (s.rule.check? context e).isSome

variable {rule : Rule}

/-- A rule agrees with its strict form if its strict check has an answer everywhere. -/
lemma agrees_ofRule (answers : ∀ context e, (rule.check? context e).isSome) : (ofRule rule).Agrees :=
  ⟨fun _ _ => rfl, fun _ _ => rfl, answers⟩

/-- Checks of types that agree on all types agree on all entities. -/
lemma checkTypes_congr {check check' : Context → TypeDef → Findings}
    (same : ∀ context t, check context t = check' context t) (context : Context) (e : Entity) :
    checkTypes check context e = checkTypes check' context e := by
  cases e with
  | type t => exact same context t
  | field _ => rfl
  | argument _ => rfl

/-- Checks of fields that agree on all fields agree on all entities. -/
lemma checkFields_congr {check check' : Context → Field → Findings}
    (same : ∀ context f, check context f = check' context f) (context : Context) (e : Entity) :
    checkFields check context e = checkFields check' context e := by
  cases e with
  | type _ => rfl
  | field f => exact same context f
  | argument _ => rfl

/-- A check of types has an answer everywhere if it has one for every type. -/
lemma isSome_checkTypes {check : Context → TypeDef → Findings}
    (answers : ∀ context t, (check context t).isSome) (context : Context) (e : Entity) :
    (checkTypes check context e).isSome := by
  cases e with
  | type t => exact answers context t
  | field _ => rfl
  | argument _ => rfl

/-- A check of fields has an answer everywhere if it has one for every field. -/
lemma isSome_checkFields {check : Context → Field → Findings}
    (answers : ∀ context f, (check context f).isSome) (context : Context) (e : Entity) :
    (checkFields check context e).isSome := by
  cases e with
  | type _ => rfl
  | field f => exact answers context f
  | argument _ => rfl

/-- A choice between two answers is an answer. -/
lemma isSome_ite {p : Prop} [Decidable p] {findings findings' : Findings}
    (answers : findings.isSome) (answers' : findings'.isSome) :
    (if p then findings else findings').isSome := by
  split
  · exact answers
  · exact answers'

/-- Whether a rule for root fields applies can be looked up of any entity. -/
lemma testServed_eq {id description : String} {operation : Sdl.Operation} {applies : Field → Bool}
    {check : Context → Field → Findings} {test? : Field → Option Bool}
    (same : ∀ f, test? f = some (applies f)) (context : Context) (e : Entity) :
    testServed operation test? context e =
      some ((Rule.onRootFields id description operation applies check).appliesTo context e) := by
  cases e with
  | type _ => rfl
  | field f =>
    rw [testServed, same]
    rfl
  | argument _ => rfl

/-- The verb of a field is looked up only where there are words. -/
lemma hasVerb?_eq {verb : String} (f : Field) : hasVerb? verb f = some (Rule.hasVerb verb f) := by
  rw [hasVerb?, Word.verbAndObject?_eq]
  rfl

/-- The arguments of a field are looked up only as far as there are any. -/
lemma isLookup?_eq (f : Field) : isLookup? f = some (Rule.isLookup f) := by
  rw [isLookup?, Rule.isLookup]
  cases f.type.isList
  · rcases f.arguments with _ | ⟨a, _ | ⟨b, more⟩⟩ <;> rfl
  · rfl

/-- The first letter behind a prefix is looked up only where there is one. -/
lemma leadingPrefix?_eq (prefixes : List String) (name : String) :
    leadingPrefix? prefixes name = some (Rule.leadingPrefix? prefixes name) := by
  rw [leadingPrefix?, Rule.leadingPrefix?]
  rcases Word.split name with _ | ⟨first, _ | ⟨second, more⟩⟩
  · rfl
  · rfl
  · simp

/-- The rule on the case of types looks at no position. -/
lemma agrees_typeCasing : (ofRule .typeCasing).Agrees :=
  agrees_ofRule (isSome_checkTypes fun _ _ => isSome_ite rfl rfl)

/-- The rule on singular types looks at last words that are there. -/
lemma agrees_typeSingular : typeSingular.Agrees where
  appliesTo _ _ := rfl
  check := checkTypes_congr fun context t => by
    dsimp only
    rcases List.eq_nil_or_concat (Word.split (Word.stripSuffix Word.roleSuffixes t.name)) with
      words | ⟨front, last, words⟩
    · rw [words]
      rfl
    · simp [words]
  answers := isSome_checkTypes fun context t => by
    split
    · rfl
    · exact isSome_ite rfl rfl

/-- The rule on suffixes for kinds looks at no position that is missing. -/
lemma agrees_typeKindSuffix : (ofRule .typeKindSuffix).Agrees := by
  refine agrees_ofRule (isSome_checkTypes fun _ _ => ?_)
  dsimp only
  split <;> rfl

/-- The rule on the suffix of input types looks at the first suffix of a list that is not empty. -/
lemma agrees_inputSuffix : (ofRule .inputSuffix).Agrees := by
  refine agrees_ofRule (isSome_checkTypes fun context t => isSome_ite rfl ?_)
  -- the options are valid
  obtain ⟨first, rest, eq⟩ := List.exists_cons_of_ne_nil context.options.suffixes_ne
  rw [eq]
  rfl

/-- The rule on filters looks at the first usage of a type that has usages. -/
lemma agrees_filterSuffix : (ofRule .filterSuffix).Agrees := by
  refine agrees_ofRule (isSome_checkTypes fun context t => isSome_ite rfl ?_)
  dsimp only
  cases (context.table.usagesOf t.name).filter (·.name == "filter") <;> rfl

/-- The rule on the case of fields looks at no position. -/
lemma agrees_fieldCasing : (ofRule .fieldCasing).Agrees :=
  agrees_ofRule fun _ _ => isSome_ite rfl rfl

/-- The rule on the plurality of fields looks at last words that are there. -/
lemma agrees_fieldPlurality : fieldPlurality.Agrees where
  appliesTo _ _ := rfl
  check := checkFields_congr fun context f => by
    simp only [Word.isPluralName?_eq, Word.plural?_eq, Option.bind_eq_bind, Option.bind_some]
  answers := isSome_checkFields fun context f => by
    dsimp only
    refine isSome_ite ?_ (isSome_ite rfl rfl)
    split
    case isFalse => rfl
    case isTrue singular =>
      -- a name without words has no plurality
      obtain ⟨last, found, -⟩ := Option.bind_eq_some_iff.1 singular
      rw [found]
      rfl

/-- The rule on redundant names looks at no position. -/
lemma agrees_fieldRedundantName : (ofRule .fieldRedundantName).Agrees := by
  refine agrees_ofRule (isSome_checkFields fun context f => isSome_ite rfl ?_)
  split <;> rfl

/-- The rule on the names of mutations looks at first words that are there. -/
lemma agrees_mutationNaming : mutationNaming.Agrees where
  appliesTo _ _ := rfl
  check := checkFields_congr fun context f => by
    simp only [Word.verbAndObject?_eq, Option.bind_eq_bind, Option.bind_some]
  answers := isSome_checkFields fun _ _ => isSome_ite rfl rfl

/-- The rule on creating mutations looks at the only argument of fields that have one. -/
lemma agrees_createMutationShape : createMutationShape.Agrees where
  appliesTo := testServed_eq hasVerb?_eq
  check := checkFields_congr fun context f => by
    simp only [Word.verbAndObject?_eq, Option.bind_eq_bind, Option.bind_some]
  answers := isSome_checkFields fun _ f => by
    dsimp only
    split
    case isFalse => rfl
    case isTrue sole =>
      obtain ⟨a, arguments⟩ := List.length_eq_one_iff.1 sole
      rw [arguments]
      exact isSome_ite rfl rfl

/-- The rule on deleting mutations looks at first words that are there. -/
lemma agrees_deleteMutationShape : deleteMutationShape.Agrees where
  appliesTo := testServed_eq hasVerb?_eq
  check _ _ := rfl
  answers := isSome_checkFields fun _ _ => isSome_ite rfl rfl

/-- The rule on look-ups looks at the only argument of fields that have one. -/
lemma agrees_byIdQueryShape : byIdQueryShape.Agrees where
  appliesTo := testServed_eq isLookup?_eq
  check _ _ := rfl
  answers := isSome_checkFields fun _ _ => isSome_ite rfl rfl

/-- The rule on truth values looks at prefixes that are there. -/
lemma agrees_booleanFieldPrefix : booleanFieldPrefix.Agrees where
  appliesTo _ _ := rfl
  check := checkFields_congr fun context f => by
    simp only [leadingPrefix?_eq, Option.bind_eq_bind, Option.bind_some]
    cases Rule.leadingPrefix? context.options.prefixes f.name with
    | some word => cases context.options.policy <;> rfl
    | none =>
      cases context.options.policy with
      | ignore => rfl
      | forbid => rfl
      | require => cases context.options.prefixes <;> rfl
  answers := isSome_checkFields fun _ _ => by
    dsimp only
    split <;> rfl

/-- The rule on results of mutations looks at no position. -/
lemma agrees_mutationResultShape : (ofRule .mutationResultShape).Agrees := by
  refine agrees_ofRule (isSome_checkFields fun context f => ?_)
  dsimp only
  split <;> rfl

/-- The rule on collections looks at no position. -/
lemma agrees_collectionQueryShape : (ofRule .collectionQueryShape).Agrees :=
  agrees_ofRule (isSome_checkFields fun _ _ => isSome_ite rfl rfl)

/-- The rule on identifiers looks at no position. -/
lemma agrees_idFieldPresence : (ofRule .idFieldPresence).Agrees := by
  refine agrees_ofRule (isSome_checkTypes fun context t => isSome_ite ?_ rfl)
  split
  · rfl
  · exact isSome_ite rfl rfl

/-- The rule on the case of values looks at no position. -/
lemma agrees_enumValueCasing : (ofRule .enumValueCasing).Agrees :=
  agrees_ofRule (isSome_checkTypes fun _ _ => rfl)

/-- All rules of the standard catalog agree with their strict forms. -/
lemma agrees_standard : ∀ s ∈ standard, s.Agrees := by
  simp only [standard, List.forall_mem_cons]
  exact ⟨agrees_typeCasing, agrees_typeSingular, agrees_typeKindSuffix, agrees_inputSuffix,
    agrees_filterSuffix, agrees_fieldCasing, agrees_fieldPlurality, agrees_fieldRedundantName,
    agrees_mutationNaming, agrees_mutationResultShape, agrees_createMutationShape,
    agrees_deleteMutationShape, agrees_collectionQueryShape, agrees_byIdQueryShape,
    agrees_idFieldPresence, agrees_enumValueCasing, agrees_booleanFieldPrefix, nofun⟩

/-! ## Runs -/

/-- The diagnostics of a rule about an entity, if the entity is of a kind that the rule looks at. -/
def answer? (s : StrictRule) (context : Context) (e : Entity) : Option (List Diagnostic) :=
  if s.rule.targets.contains e.kind then do
    if ← s.appliesTo? context e then
      let findings ← s.check? context e
      return findings.map s.rule.diagnostic
    else return []
  else none

/-- What the rules for its kind say of an entity. -/
def batch? (rules : List StrictRule) (context : Context) (e : Entity) : Option (List Diagnostic) :=
  let asked := rules.filter fun s => s.rule.targets.contains e.kind
  (asked.mapM fun s : StrictRule => s.answer? context e).map (·.flatten)

/-- What the rules say of one entity after another. -/
def run? (rules : List StrictRule) (context : Context) : Option (List (List Diagnostic)) :=
  context.table.entities.mapM (batch? rules context)

/-- There are answers for all members of a list if there is one for each. -/
lemma mapM_eq_some_map {α β : Type} {f : α → Option β} {g : α → β} {xs : List α}
    (each : ∀ x ∈ xs, f x = some (g x)) : xs.mapM f = some (xs.map g) := by
  induction xs with
  | nil => rfl
  | cons x xs ih =>
    obtain ⟨first, rest⟩ := List.forall_mem_cons.1 each
    rw [List.mapM_cons, first, ih rest]
    rfl

/-- The strict form of a rule that agrees has an answer for its targets, that of the rule. -/
lemma Agrees.answer?_eq {s : StrictRule} (agrees : s.Agrees) {context : Context} {e : Entity}
    (target : s.rule.targets.contains e.kind) :
    s.answer? context e =
      some (if s.rule.appliesTo context e then s.rule.diagnostics context e else []) := by
  obtain ⟨findings, answer⟩ := Option.isSome_iff_exists.1 (agrees.answers context e)
  rw [answer?, if_pos target, agrees.appliesTo, agrees.check, Rule.diagnostics, answer]
  cases s.rule.appliesTo context e <;> rfl

/-- Strict forms that agree make the batch of an entity that their rules make. -/
lemma batch?_eq {rules : List StrictRule} (agree : ∀ s ∈ rules, s.Agrees) (context : Context)
    (e : Entity) :
    batch? rules context e = some ((Dispatch.ofRules (rules.map (·.rule))).check context e) := by
  have each : ∀ s ∈ rules.filter fun s => s.rule.targets.contains e.kind, s.answer? context e =
      some (if s.rule.appliesTo context e then s.rule.diagnostics context e else []) := by
    intro s mem
    obtain ⟨mem, target⟩ := List.mem_filter.1 mem
    exact (agree s mem).answer?_eq target
  have found : (Dispatch.ofRules (rules.map (·.rule))).check context e =
      (rules.filter fun s => s.rule.targets.contains e.kind).flatMap fun s =>
        if s.rule.appliesTo context e then s.rule.diagnostics context e else [] := by
    rw [Dispatch.check, Dispatch.asked, Dispatch.get_ofRules, List.filter_map, flatMap_filter,
      List.flatMap_map]
    rfl
  rw [batch?, mapM_eq_some_map each, Option.map_some, ← List.flatMap_def, found]

/-- A strict run of all rules of the convention has an answer, whatever the schema, the options and
the judgement are, and it is what a run finds about each entity. So wherever a rule comes to look at a
position, there is something, and no rule is put to anything but an entity of a kind that it looks at:
all entities are types, their fields and the arguments of these. -/
theorem run?_standard (context : Context) :
    standard.map (·.rule) = Catalog.standardRules ∧
    (∀ e ∈ context.table.entities, ∃ t ∈ context.table.types, e = .type t ∨
      ∃ f ∈ t.fields, e = .field f ∨ ∃ a ∈ f.arguments, e = .argument a) ∧
    run? standard context = some (Run.batches Catalog.standardRules context) := by
  refine ⟨rfl, ?_, ?_⟩
  · intro e mem
    obtain ⟨t, memT, mem⟩ := List.mem_flatMap.1 mem
    refine ⟨t, memT, ?_⟩
    rcases List.mem_cons.1 mem with rfl | mem
    · exact .inl rfl
    · obtain ⟨f, memF, mem⟩ := List.mem_flatMap.1 mem
      refine .inr ⟨f, memF, ?_⟩
      rcases List.mem_cons.1 mem with rfl | mem
      · exact .inl rfl
      · obtain ⟨a, memA, rfl⟩ := List.mem_map.1 mem
        exact .inr ⟨a, memA, rfl⟩
  · rw [Run.batches, Context.overEntities_eq_map]
    exact mapM_eq_some_map fun e _ => batch?_eq agrees_standard context e

/-- A document of names in which there is no word to look at, with a filter, a root type of mutations
and a field that is put to a judgement. -/
def wordlessDocument : Sdl.Document where
  definitions := [
    .type false ⟨"Query", ⟨1, 6⟩⟩ (.object []
      [⟨⟨"_", ⟨1, 14⟩⟩, [⟨⟨"filter", ⟨1, 16⟩⟩, .named ⟨"_", ⟨1, 24⟩⟩ false⟩],
        .list ⟨1, 28⟩ (.named ⟨"Int", ⟨1, 29⟩⟩ false) false⟩]),
    .type false ⟨"Mutation", ⟨2, 6⟩⟩ (.object []
      [⟨⟨"__", ⟨2, 17⟩⟩, [], .named ⟨"Int", ⟨2, 21⟩⟩ false⟩,
      ⟨⟨"createUser", ⟨3, 3⟩⟩, [], .named ⟨"Int", ⟨3, 15⟩⟩ false⟩]),
    .type false ⟨"_", ⟨4, 7⟩⟩ (.input
      [⟨⟨"_", ⟨4, 11⟩⟩, [], .named ⟨"Boolean", ⟨4, 14⟩⟩ false⟩])]
  origin := none

/-- Options without prefixes, and a judgement with an answer to every question. -/
def wordlessContext : Context where
  table := .ofTypes wordlessDocument.types wordlessDocument.roots "<schema>"
  options := { Options.default with policy := .require, prefixes := [] }
  judgement := ⟨fun _ => some false, fun _ _ => some true, fun _ _ => some ""⟩

/-- With no word in the names and no prefix in the options, the strict run still has an answer, and
all entities but one have findings. -/
theorem run?_standard_wordless :
    Table.build wordlessDocument none = .ok wordlessContext.table ∧
    run? standard wordlessContext = some (Run.batches Catalog.standardRules wordlessContext) ∧
    (Run.batches Catalog.standardRules wordlessContext).map List.length =
      [1, 3, 0, 1, 3, 3, 3, 3] :=
  ⟨rfl, (run?_standard wordlessContext).2.2, by decide +kernel⟩

end StrictRule

end SchemaLint

import Mathlib
import SchemaLint.Proofs.NameMap
import SchemaLint.Proofs.Rule.Fixes
import SchemaLint.Proofs.Rule.RootFields
import SchemaLint.Proofs.Word.FirstWord

/-!
# Verbs of mutations

A mutation is named by a verb and its object. The rule takes the first word of the name for its verb,
so of the allowed verbs only those of small letters can be found in a name, and all others are asked
for in vain (`Rule.mutationNaming_reports`). A name with a synonym of an allowed verb gets this verb in
the place of the synonym, and the new name is fine. It has the other words of the old one just if this
does not start with an underscore: `Rule.mutationNaming_fix`.
-/

namespace SchemaLint

open Sdl (IsName)
open Word (isSmall split split_append startsLower startsUpper verbAndObject)

/-- A set contains its names. -/
lemma NameSet.contains_iff {s : NameSet} {name : String} : s.contains name ↔ name ∈ s.names :=
  List.contains_iff_mem

namespace Rule

variable {context : Context} {f : Field} {options : Options} {verb synonym fix : String}

/-! ## Names with an allowed verb -/

/-- The first word of the name is an allowed verb, and a capital follows it. -/
def HasAllowedVerb (options : Options) (name : String) : Prop :=
  (verbAndObject name).1 ∈ options.verbs.names ∧ startsUpper (verbAndObject name).2

/-- Nothing is found about a mutation with a verb that is allowed. -/
lemma check_mutationNaming_of_hasAllowedVerb (allowed : HasAllowedVerb context.options f.name) :
    mutationNaming.check? context (.field f) = .nothing := by
  refine if_pos ?_
  rw [Bool.and_eq_true, NameSet.contains_iff]
  exact allowed

/-- Of any other mutation something is found, and a synonym of its verb is proposed if there is
one. -/
lemma check_mutationNaming_of_not (other : ¬HasAllowedVerb context.options f.name) :
    ∃ message, mutationNaming.check? context (.field f) = .one (.field f) message
      (if startsUpper (verbAndObject f.name).2 then
        (allowedSynonym? context.options (verbAndObject f.name).1).map
          (· ++ (verbAndObject f.name).2)
      else none) := by
  refine ⟨_, if_neg ?_⟩
  rw [Bool.and_eq_true, NameSet.contains_iff]
  exact other

/-- Mutations are told that do not have a verb that is allowed. -/
lemma mutationNaming_reportsIff :
    mutationNaming.ReportsIff context (.field f)
      (context.table.operationOf? f = some .mutation ∧ ¬HasAllowedVerb context.options f.name) := by
  have reports : mutationNaming.ReportsIff context (.field f)
      (context.table.operationOf? f = some .mutation ∧ true ∧
        ¬HasAllowedVerb context.options f.name) := by
    refine reportsIff_onRootFields ?_ ?_
    · intro other
      obtain ⟨message, found⟩ := check_mutationNaming_of_not other
      exact ⟨message, _, found⟩
    · intro allowed
      exact check_mutationNaming_of_hasAllowedVerb (not_not.1 allowed)
  exact reports.congr (and_congr_right' (and_iff_right rfl))

/-- Verbs that start with a small letter are found in a name if they are of small letters. -/
lemma hasAllowedVerb_iff {name : String} (lower : ∀ v ∈ options.verbs.names, startsLower v) :
    HasAllowedVerb options name ↔
      ∃ v ∈ options.verbs.names, isSmall v ∧ ∃ object, startsUpper object ∧ name = v ++ object := by
  constructor
  · rintro ⟨mem, upper⟩
    exact ⟨_, mem, (Word.verbAndObject_iff (lower _ mem)).1 ⟨rfl, upper⟩⟩
  · rintro ⟨v, mem, parts⟩
    obtain ⟨rfl, upper⟩ := (Word.verbAndObject_iff (lower v mem)).2 parts
    exact ⟨mem, upper⟩

/-- With allowed verbs that start with small letters, exactly one error is reported about a field that
counts for the mutation, unless its name is an allowed verb of small letters and an object with a
capital. About other fields, those of a root type of mutations that an operation before has too among
them, nothing is reported. -/
theorem mutationNaming_reports (context : Context) (f : Field)
    (lower : ∀ v ∈ context.options.verbs.names, startsLower v) :
    mutationNaming.ReportsIff context (.field f)
      (context.table.operationOf? f = some .mutation ∧
        ¬∃ v ∈ context.options.verbs.names, isSmall v ∧
          ∃ object, startsUpper object ∧ f.name = v ++ object) := by
  refine mutationNaming_reportsIff.congr ?_
  rw [hasAllowedVerb_iff lower]

/-- A field of the type `Mutation`. -/
def mutationOfInt (name : String) : Field :=
  ⟨name, "Mutation", ⟨"Int", true, 0, none, "Int"⟩, [], ⟨1, 17⟩⟩

/-- What a rule looks at in the schema `type Mutation { setUser: Int, signUpUser: Int }`, where the
verbs `set` and `signUp` are allowed. -/
def signUpContext : Context where
  table := .ofTypes
    [⟨"Mutation", .object, [mutationOfInt "setUser", mutationOfInt "signUpUser"], [], [], [],
      ⟨1, 6⟩⟩]
    [(.mutation, "Mutation")] "<schema>"
  options := { Options.default with
    verbs := .ofNames ["set", "signUp"], verbs_ne := by decide +kernel }
  judgement := .ofNames []

/-- One of the verbs is of small letters and found, and the other one is not. -/
theorem mutationNaming_reports_setUser :
    (∀ v ∈ signUpContext.options.verbs.names, startsLower v) ∧
    mutationNaming.reported signUpContext (.field (mutationOfInt "setUser")) = [] ∧
    ∃ message fix, mutationNaming.reported signUpContext (.field (mutationOfInt "signUpUser")) =
      [⟨"MutationNaming", .error, message, ⟨"Mutation", some "signUpUser", none, 1, 17⟩, fix⟩] := by
  have lower : ∀ v ∈ signUpContext.options.verbs.names, startsLower v := by decide +kernel
  refine ⟨lower, ?_, ?_⟩
  · refine (mutationNaming_reports signUpContext _ lower).nothing fun reports => reports.2 ?_
    exact ⟨"set", by decide +kernel, by decide +kernel, "User", by decide, rfl⟩
  · refine (mutationNaming_reports signUpContext _ lower).one ⟨by decide, ?_⟩
    rintro ⟨v, mem, small, object, upper, text⟩
    have verbs : ∀ v ∈ signUpContext.options.verbs.names, isSmall v → v = "set" := by decide +kernel
    obtain rfl := verbs v mem small
    exact absurd (congrArg (·.toList.take 3) text) (by simp [mutationOfInt])

/-- Not every mutation that is named by an allowed verb and an object with a capital is spared: it is
reported that `signUpUser` should be named with a verb from `set` and `signUp`. -/
theorem mutationNaming_reports_signUpUser :
    ¬∀ (context : Context) (f : Field), context.table.rootName? .mutation = some f.owner →
      (∀ v ∈ context.options.verbs.names, IsName v ∧ startsLower v) →
      (∃ v ∈ context.options.verbs.names, ∃ object, startsUpper object ∧ f.name = v ++ object) →
      mutationNaming.reported context (.field f) = [] := by
  intro spared
  have silent := spared signUpContext (mutationOfInt "signUpUser") (by decide) (by decide +kernel)
    ⟨"signUp", by decide +kernel, "User", by decide, rfl⟩
  exact absurd silent (by decide +kernel)

/-! ## Allowed verbs for synonyms -/

/-- A synonym that is proposed is an allowed verb, a name, and in small letters. -/
lemma allowedSynonym?_eq_some (found : synonym ∈ allowedSynonym? options verb) :
    synonym ∈ options.verbs.names ∧ IsName synonym ∧ isSmall synonym := by
  obtain ⟨mapped, allowed⟩ := Option.filter_eq_some_iff.1 found
  obtain ⟨pair, known, rfl⟩ := Option.map_eq_some_iff.1 mapped
  have small := List.all_eq_true.1 (by decide +kernel : verbSynonyms.all fun pair => isSmall pair.2)
    pair (List.mem_of_find?_eq_some known)
  exact ⟨NameSet.contains_iff.1 allowed, isName_of_mem_allowedSynonym? found, small⟩

/-- A new name is an allowed verb with what is taken for the object of the old one. -/
lemma exists_of_mutationNaming_fix {d : Diagnostic}
    (mem : d ∈ mutationNaming.reported context (.field f)) (proposed : d.fix = some fix) :
    startsUpper (verbAndObject f.name).2 ∧
      ∃ synonym ∈ allowedSynonym? context.options (verbAndObject f.name).1,
        fix = synonym ++ (verbAndObject f.name).2 := by
  by_cases allowed : HasAllowedVerb context.options f.name
  · rw [mutationNaming_reportsIff.nothing fun reports => reports.2 allowed] at mem
    cases mem
  · obtain ⟨message, found⟩ := check_mutationNaming_of_not allowed
    have reported : mutationNaming.reported context (.field f) = _ := reported_onRootFields found
    rw [reported] at mem
    split_ifs at mem with serves upper
    · cases List.mem_singleton.1 mem
      obtain ⟨synonym, found, rfl⟩ := Option.map_eq_some_iff.1 proposed
      exact ⟨upper, synonym, found, rfl⟩
    · cases List.mem_singleton.1 mem
      cases proposed
    · cases mem

end Rule

/-! ## The words behind the verb -/

namespace Word

variable {left rest : List Char} {name : String}

/-- A text in front of another changes its words if it starts with a capital. -/
lemma split_append_left_eq_iff (upper : ∀ c ∈ left.head?, c.isUpper) :
    split (String.ofList (left ++ rest)) = split (String.ofList rest) ↔ left = [] := by
  constructor
  · intro same
    have words : splitChars (left ++ rest) = splitChars rest := by
      rw [split, split, String.toList_ofList, String.toList_ofList] at same
      exact List.map_injective_iff.2 (fun _ _ eq => String.ofList_inj.1 eq) same
    have letters := congrArg List.flatten words
    rw [(splits_splitChars _).flatten_eq, (splits_splitChars _).flatten_eq, List.filter_append,
      List.append_left_eq_self, List.filter_eq_nil_iff] at letters
    cases left with
    | nil => rfl
    | cons c left =>
      -- the capital is a letter of the first text only
      have letter := isAlpha_of_isUpper (upper c rfl)
      exact absurd (letters c List.mem_cons_self) (by simp [isSeparator, letter])
  · rintro rfl
    rw [List.nil_append]

/-- The words of the object are the words of the name behind the first one just if no underscore
stands in front of the name. -/
lemma split_object_eq_iff (named : IsName name) (upper : startsUpper (verbAndObject name).2) :
    split (verbAndObject name).2 = (split name).tail ↔ name.toList.head? ≠ some '_' := by
  obtain ⟨gap, w, rest, text, separators, form, words, parts⟩ := exists_of_startsUpper_object upper
  rw [parts] at upper ⊢
  rw [words, List.tail_cons, text]
  obtain ⟨c, w, rfl⟩ := List.exists_cons_of_ne_nil form.ne_nil
  have capital : ∀ d ∈ ((gap ++ c :: w).drop (c :: w).length).head?, d.isUpper := by
    intro d mem
    obtain ⟨e, head, upper⟩ := startsUpper_iff.1 upper
    rw [String.toList_ofList] at head
    rwa [Option.mem_unique (List.mem_head?_append_of_mem_head? mem) head]
  rw [split_append_left_eq_iff capital]
  cases gap with
  | nil =>
    -- the word starts with no separator
    have first := form.isSeparator_eq_false c List.mem_cons_self
    refine iff_of_true (by simp) fun head => ?_
    cases head
    cases first
  | cons g gap =>
    have char : Sdl.isNameContinue g := named.chars g (by simp [text])
    have underscore := (isSeparator_iff char).1 (separators g List.mem_cons_self)
    have left : 0 < ((g :: gap ++ c :: w).drop (c :: w).length).length := by
      rw [List.length_drop, List.length_append, Nat.add_sub_cancel]
      exact Nat.succ_pos _
    refine iff_of_false (List.ne_nil_of_length_pos left) (not_not.2 ?_)
    rw [underscore]
    rfl

end Word

namespace Rule

/-- What the rule proposes is a name with an allowed verb for its first word and the words of the
object behind it, and under this name the field is not reported. The words behind the verb are those of
the old name behind its first one just if this does not start with an underscore. -/
theorem mutationNaming_fix (context : Context) (f : Field) (named : IsName f.name) {d : Diagnostic}
    (mem : d ∈ mutationNaming.reported context (.field f)) {fix : String}
    (proposed : d.fix = some fix) :
    IsName fix ∧
    (∃ v ∈ context.options.verbs.names, split fix = v :: split (verbAndObject f.name).2) ∧
    mutationNaming.reported context (.field { f with name := fix }) = [] ∧
    ((split fix).tail = (split f.name).tail ↔ f.name.toList.head? ≠ some '_') := by
  obtain ⟨upper, synonym, found, rfl⟩ := exists_of_mutationNaming_fix mem proposed
  obtain ⟨allowed, synonym_named, small⟩ := allowedSynonym?_eq_some found
  have ne : synonym ≠ "" := by
    rintro rfl
    exact synonym_named.ne_nil rfl
  obtain ⟨words, parts⟩ := split_append small ne upper
  refine ⟨synonym_named.append (chars_verbAndObject named), ⟨synonym, allowed, words⟩, ?_, ?_⟩
  · refine mutationNaming_reportsIff.nothing fun reports => reports.2 ?_
    rw [HasAllowedVerb, parts]
    exact ⟨allowed, upper⟩
  · rw [words, List.tail_cons]
    exact Word.split_object_eq_iff named upper

/-- What a rule looks at by default in a schema whose mutations are named by synonyms. -/
def synonymContext : Context where
  table := .ofTypes
    [⟨"Mutation", .object, [mutationOfInt "NEWUserIDs", mutationOfInt "_NEWUser"], [], [], [],
      ⟨1, 6⟩⟩]
    [(.mutation, "Mutation")] "<schema>"
  options := .default
  judgement := .ofNames []

/-- The diagnostic of the rule about a name. -/
def namingDiagnostic (name fix : String) : Diagnostic :=
  ⟨"MutationNaming", .error,
    s!"Mutation '{name}' should be named <verb><Object> " ++
      "with a verb from: create, delete, set, track, update",
    ⟨"Mutation", some name, none, 1, 17⟩, some fix⟩

/-- Capitals may be a synonym, and the object may be in capitals too. -/
theorem mutationNaming_fix_newUserIDs :
    let f := mutationOfInt "NEWUserIDs"
    let d := namingDiagnostic "NEWUserIDs" "createUserIDs"
    IsName f.name ∧ d ∈ mutationNaming.reported synonymContext (.field f) ∧
    IsName "createUserIDs" ∧ (split "createUserIDs").tail = ["User", "IDs"] ∧
    (split "createUserIDs").tail = (split f.name).tail ∧
    mutationNaming.reported synonymContext (.field { f with name := "createUserIDs" }) = [] := by
  intro f d
  have named : IsName f.name := by decide +kernel
  have mem : d ∈ mutationNaming.reported synonymContext (.field f) := by decide +kernel
  obtain ⟨fix_named, -, silent, words⟩ := mutationNaming_fix synonymContext f named mem rfl
  exact ⟨named, mem, fix_named, by decide +kernel, words.2 (by decide +kernel), silent⟩

/-- A fix need not have the other words of the name: behind an underscore the last character of the
synonym counts for the object, and `createWUser` is proposed for `_NEWUser`. -/
theorem mutationNaming_fix_underscore :
    ¬∀ (context : Context) (f : Field), IsName f.name →
      ∀ d ∈ mutationNaming.reported context (.field f), ∀ fix, d.fix = some fix →
        (split fix).tail = (split f.name).tail := by
  intro kept
  have words := kept synonymContext (mutationOfInt "_NEWUser") (by decide +kernel)
    (namingDiagnostic "_NEWUser" "createWUser") (by decide +kernel) _ rfl
  exact absurd words (by decide +kernel)

end Rule

end SchemaLint

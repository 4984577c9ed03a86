import Mathlib
import SchemaLint.Proofs.Rule.Fixes
import SchemaLint.Proofs.Rule.RootFields
import SchemaLint.Proofs.Word.FirstWord
import SchemaLint.Rule.FieldNames

/-!
# Prefixes of Boolean fields

Whether a Boolean field starts with a prefix is told by the words of its name, so of a policy that asks
for prefixes and one that forbids them just one finds fault with a field. But the names that they
propose are made of texts. A prefix that is put in front of a name is found again only if its own first
word is a prefix, and what is cut off a name is not the prefix if underscores stand in front of it:
`Rule.booleanFieldPrefix_policies`.
-/

namespace SchemaLint

open Sdl (IsName)
open Word (capitalized isSeparator split splitChars startsLower uncapitalized)

/-- The same but for the policy about prefixes. -/
def Context.withPolicy (context : Context) (policy : PrefixPolicy) : Context :=
  { context with options := { context.options with policy := policy } }

/-- A Boolean field of which prefixes may be asked or forbidden. -/
structure Field.IsFlag (table : Table) (f : Field) : Prop where
  boolean : f.type.isPlain "Boolean"
  name_ne : f.name ≠ "success"
  inner : table.isRoot f.owner = false

/-! ## Words of a name behind a prefix -/

namespace Word

variable {a b : List Char} {first name : String}

/-- A text has no words if it is one of separators. -/
lemma splitChars_eq_nil_iff : splitChars a = [] ↔ ∀ c ∈ a, isSeparator c :=
  (splits_splitChars a).eq_nil_iff

/-- The capital of a character is a separator if the character is. -/
lemma isSeparator_toUpper (c : Char) : isSeparator c.toUpper = isSeparator c := by
  cases letter : c.isAlpha with
  | false => rw [toUpper_of_isAlpha_eq_false letter]
  | true =>
    have upper : c.toUpper.isAlpha := (Char.isAlpha_toUpper_eq_isAlpha c).trans letter
    rw [isSeparator, isSeparator, letter, upper]
    rfl

/-- A capital in front does not change whether there are words. -/
lemma splitChars_upperFirst_eq_nil_iff : splitChars (upperFirst a) = [] ↔ splitChars a = [] := by
  rw [splitChars_eq_nil_iff, splitChars_eq_nil_iff]
  cases a with
  | nil => rfl
  | cons c cs => rw [upperFirst, List.forall_mem_cons, List.forall_mem_cons, isSeparator_toUpper]

/-- A text with a capital in front does not start with a small letter. -/
lemma head?_upperFirst : ∀ d ∈ (upperFirst a).head?, d.isLower = false := by
  intro d mem
  cases a with
  | nil => cases mem
  | cons c cs =>
    cases mem
    exact Char.isLower_toUpper_eq_false c

/-- Behind a text that starts with a small letter, a name with a capital in front has no part in the
first word, and there are other words if the name has any or the text has more than one. -/
lemma split_append_capitalized (starts : startsLower first) (name : String) :
    (split (first ++ capitalized name)).head? = (split first).head? ∧
    ((split (first ++ capitalized name)).tail = [] ↔ (split first).tail = [] ∧ split name = []) := by
  obtain ⟨c, cs, text⟩ : ∃ c cs, first.toList = c :: cs := by
    rw [startsLower, Option.any_eq_true] at starts
    obtain ⟨c, head, -⟩ := starts
    exact ⟨c, List.head?_eq_some_iff.1 head⟩
  have lower : c.isLower := by simpa [startsLower, text] using starts
  obtain ⟨w, rest, run, ne, small, ends⟩ := Text.exists_run_cons lower cs
  have name_ends : ∀ d ∈ (rest ++ upperFirst name.toList).head?, d.isLower = false := by
    cases rest with
    | nil => exact head?_upperFirst
    | cons d rest => exact ends
  have words : splitChars first.toList = w :: splitChars rest := by
    rw [text, run, splitChars_small_append ne small ends]
  have all_words : splitChars (first ++ capitalized name).toList =
      w :: splitChars (rest ++ upperFirst name.toList) := by
    rw [String.toList_append, capitalized, String.toList_ofList, text, run, List.append_assoc,
      splitChars_small_append ne small name_ends]
  rw [split, split, split, words, all_words]
  refine ⟨rfl, ?_⟩
  rw [List.map_cons, List.map_cons, List.tail_cons, List.tail_cons, List.map_eq_nil_iff,
    List.map_eq_nil_iff, List.map_eq_nil_iff, ← splitChars_upperFirst_eq_nil_iff (a := name.toList),
    splitChars_eq_nil_iff, splitChars_eq_nil_iff, splitChars_eq_nil_iff, List.forall_mem_append]

/-! ## Names that the first word is cut off -/

/-- A small first letter takes as much room as the letter. -/
lemma length_lowerFirst : (lowerFirst a).length = a.length := by
  cases a with
  | nil => rfl
  | cons c cs => rfl

/-- The words of a name behind its first one are as many characters as are left without those of this
just if the name has no underscores, and then they are these characters. -/
lemma uncapitalized_drop_eq_iff {word : String} {words : List String} (named : IsName name)
    (parts : split name = word :: words) :
    uncapitalized (String.ofList (name.toList.drop word.length)) = uncapitalized (String.join words) ↔
      '_' ∉ name.toList := by
  have letters := flatMap_toList_split named.chars
  rw [parts, List.flatMap_cons, ← String.toList_join] at letters
  rw [uncapitalized, uncapitalized, String.toList_ofList, String.ofList_inj]
  constructor
  · -- as many characters are left as the other words have, so the name has no others
    intro same underscore
    have length := congrArg List.length same
    have total := congrArg List.length letters
    have less : (name.toList.filter (· ≠ '_')).length < name.toList.length :=
      List.length_filter_lt_length_iff_exists.2 ⟨'_', underscore, by simp⟩
    rw [length_lowerFirst, length_lowerFirst, List.length_drop] at length
    rw [List.length_append, String.length_toList] at total
    omega
  · intro none
    have all : name.toList.filter (· ≠ '_') = name.toList :=
      List.filter_eq_self.2 fun c mem => decide_eq_true (ne_of_mem_of_not_mem mem none)
    rw [← letters.trans all, ← String.length_toList, List.drop_left]

/-- A name that starts with no underscore starts with its first word. -/
lemma exists_eq_append_of_split {word : String} {words : List String} (named : IsName name)
    (parts : split name = word :: words) (head : name.toList.head? ≠ some '_') :
    ∃ rest, name = word ++ rest ∧ split rest = words := by
  obtain ⟨gap, rest, text, separators, -, behind⟩ := exists_of_split_eq_cons parts
  cases gap with
  | nil =>
    refine ⟨String.ofList rest, ?_, behind⟩
    rw [← String.toList_inj, text, String.toList_append, String.toList_ofList, List.nil_append]
  | cons c gap =>
    have char : Sdl.isNameContinue c := named.chars c (by simp [text])
    have underscore := (isSeparator_iff char).1 (separators c List.mem_cons_self)
    rw [text, underscore] at head
    exact absurd rfl head

end Word

namespace Rule

variable {context : Context} {f : Field} {prefixes : List String} {first name word : String}

/-- A prefix is found if it is the first of several words. -/
lemma isSome_leadingPrefix?_iff :
    (leadingPrefix? prefixes name).isSome ↔
      (∃ w ∈ prefixes, (split name).head? = some w) ∧ (split name).tail ≠ [] := by
  rw [leadingPrefix?]
  cases split name with
  | nil => simp
  | cons w rest =>
    cases rest with
    | nil => simp
    | cons second words =>
      by_cases mem : w ∈ prefixes
      · simp [mem]
      · simp [mem]

/-- A name with the prefix in front is seen to have a prefix just if the first word of the prefix is one
itself and is not the only word of the name. -/
lemma isSome_leadingPrefix?_append_iff (starts : startsLower first) :
    (leadingPrefix? prefixes (first ++ capitalized name)).isSome ↔
      (∃ w ∈ prefixes, (split first).head? = some w) ∧ ((split first).tail ≠ [] ∨ split name ≠ []) := by
  obtain ⟨head, tail⟩ := Word.split_append_capitalized starts name
  rw [isSome_leadingPrefix?_iff, head, ne_eq, tail, not_and_or]

/-! ## Reports under both policies -/

section
variable (flag : f.IsFlag context.table)
include flag

/-- Flags are in the scope of the rule. -/
lemma reported_booleanFieldPrefix {policy : PrefixPolicy} (ne : policy ≠ .ignore) :
    booleanFieldPrefix.reported (context.withPolicy policy) (.field f) =
      booleanFieldPrefix.diagnostics (context.withPolicy policy) (.field f) := by
  refine if_pos ?_
  show (decide (policy ≠ .ignore) && f.type.isPlain "Boolean" && decide (f.name ≠ "success") &&
    !context.table.isRoot f.owner) = true
  rw [decide_eq_true ne, flag.boolean, decide_eq_true flag.name_ne, flag.inner]
  rfl

/-- Without a prefix a field is told under the policy that requires one. -/
lemma reported_of_leadingPrefix?_eq_none
    (none : leadingPrefix? context.options.prefixes f.name = none) :
    let list := ", ".intercalate context.options.prefixes
    booleanFieldPrefix.reported (context.withPolicy .require) (.field f) =
      [⟨"BooleanFieldPrefix", .warning,
        s!"Boolean field '{f.name}' should start with one of: {list}", .ofEntity (.field f),
        context.options.prefixes.head?.map (· ++ capitalized f.name)⟩] ∧
    booleanFieldPrefix.reported (context.withPolicy .forbid) (.field f) = [] := by
  intro list
  rw [reported_booleanFieldPrefix flag (by decide), reported_booleanFieldPrefix flag (by decide)]
  dsimp only [diagnostics, booleanFieldPrefix, onFields, checkFields, Context.withPolicy]
  rw [none]
  exact ⟨rfl, rfl⟩

/-- With a prefix a field is told under the policy that forbids one. -/
lemma reported_of_leadingPrefix?_eq_some
    (found : leadingPrefix? context.options.prefixes f.name = some word) :
    booleanFieldPrefix.reported (context.withPolicy .require) (.field f) = [] ∧
    booleanFieldPrefix.reported (context.withPolicy .forbid) (.field f) =
      [⟨"BooleanFieldPrefix", .warning,
        s!"Boolean field '{f.name}' should not start with '{word}'", .ofEntity (.field f),
        some (uncapitalized (String.ofList (f.name.toList.drop word.length)))⟩] := by
  rw [reported_booleanFieldPrefix flag (by decide), reported_booleanFieldPrefix flag (by decide)]
  dsimp only [diagnostics, booleanFieldPrefix, onFields, checkFields, Context.withPolicy]
  rw [found]
  exact ⟨rfl, rfl⟩

/-- Under the policy that requires a prefix, nothing is told where there is one. -/
lemma reported_require_eq_nil_iff :
    booleanFieldPrefix.reported (context.withPolicy .require) (.field f) = [] ↔
      (leadingPrefix? context.options.prefixes f.name).isSome := by
  cases found : leadingPrefix? context.options.prefixes f.name with
  | none =>
    rw [(reported_of_leadingPrefix?_eq_none flag found).1]
    exact iff_of_false (List.cons_ne_nil _ _) Bool.false_ne_true
  | some word =>
    rw [(reported_of_leadingPrefix?_eq_some flag found).1]
    exact iff_of_true rfl rfl

end

/-- A name with a prefix in front is not that of the exempt field. -/
lemma append_capitalized_ne_success (named : IsName name) : first ++ capitalized name ≠ "success" := by
  intro same
  have small : Word.isSmall "success" := by decide
  rw [← same, Word.isSmall, List.all_eq_true] at small
  obtain ⟨c, cs, text, -⟩ := named.exists_cons
  have capital : c.toUpper ∈ (first ++ capitalized name).toList := by
    simp [capitalized, text, Word.upperFirst]
  have lower := small _ capital
  rw [Char.isLower_toUpper_eq_false] at lower
  cases lower

/-- About a flag one of the policies reports one thing, and the other one nothing. A name that should
have a prefix is proposed with the first one in front, and this name is not reported just if the first
word of the prefix is a prefix itself and not the only word of the new name. What is proposed for a name
that should have none are its words behind the prefix, joined, just if it has no underscores. It is what
stands behind the prefix, underscores included, if the name starts with no underscore. -/
theorem booleanFieldPrefix_policies (context : Context) (f : Field) {others : List String}
    (prefixes : context.options.prefixes = first :: others) (starts : startsLower first)
    (named : IsName f.name) (flag : f.IsFlag context.table) :
    let required := booleanFieldPrefix.reported (context.withPolicy .require) (.field f)
    let forbidden := booleanFieldPrefix.reported (context.withPolicy .forbid) (.field f)
    let longer := first ++ capitalized f.name
    ((required = [] ∧ ∃ d, forbidden = [d]) ∨ (forbidden = [] ∧ ∃ d, required = [d])) ∧
    (∀ d ∈ required, d.fix = some longer ∧
      (booleanFieldPrefix.reported (context.withPolicy .require)
          (.field { f with name := longer }) = [] ↔
        (∃ w ∈ context.options.prefixes, (split first).head? = some w) ∧
          ((split first).tail ≠ [] ∨ split f.name ≠ []))) ∧
    ∀ d ∈ forbidden, ∃ word ∈ context.options.prefixes, ∃ words fix,
      split f.name = word :: words ∧ d.fix = some fix ∧
      (fix = uncapitalized (String.join words) ↔ '_' ∉ f.name.toList) ∧
      (f.name.toList.head? ≠ some '_' →
        ∃ rest, f.name = word ++ rest ∧ split rest = words ∧ fix = uncapitalized rest) := by
  intro required forbidden longer
  cases found : leadingPrefix? context.options.prefixes f.name with
  | none =>
    obtain ⟨told, silent⟩ : required = _ ∧ forbidden = [] :=
      reported_of_leadingPrefix?_eq_none flag found
    refine ⟨.inr ⟨silent, _, told⟩, fun d mem => ?_, fun d mem => ?_⟩
    · rw [told] at mem
      rw [List.mem_singleton.1 mem, prefixes]
      have flag_longer : { f with name := longer }.IsFlag context.table :=
        ⟨flag.boolean, append_capitalized_ne_success named, flag.inner⟩
      refine ⟨rfl, ?_⟩
      rw [reported_require_eq_nil_iff flag_longer, ← isSome_leadingPrefix?_append_iff starts, prefixes]
    · rw [silent] at mem
      cases mem
  | some word =>
    obtain ⟨silent, told⟩ : required = [] ∧ forbidden = _ :=
      reported_of_leadingPrefix?_eq_some flag found
    refine ⟨.inl ⟨silent, _, told⟩, fun d mem => ?_, fun d mem => ?_⟩
    · rw [silent] at mem
      cases mem
    · rw [told] at mem
      rw [List.mem_singleton.1 mem]
      obtain ⟨allowed, second, words, parts⟩ := exists_split_of_leadingPrefix? found
      refine ⟨word, allowed, second :: words, _, parts, rfl,
        Word.uncapitalized_drop_eq_iff named parts, fun head => ?_⟩
      obtain ⟨rest, text, behind⟩ := Word.exists_eq_append_of_split named parts head
      refine ⟨rest, text, behind, congrArg uncapitalized ?_⟩
      rw [text, String.toList_append, ← String.length_toList, List.drop_left, String.ofList_toList]

/-- A Boolean field of the type `User`. -/
def flagOfUser (name : String) : Field :=
  ⟨name, "User", ⟨"Boolean", true, 0, none, "Boolean"⟩, [], ⟨1, 13⟩⟩

/-- What a rule looks at by default in the schema of a user with three flags. -/
def flagContext : Context where
  table := .ofTypes
    [⟨"User", .object, [flagOfUser "active", flagOfUser "isActive", flagOfUser "_isActive"], [], [],
      [], ⟨1, 6⟩⟩]
    [] "<schema>"
  options := .default
  judgement := .ofNames []

/-- A field of truth values in the example is one that the rule looks at. -/
lemma isFlag_flagOfUser {name : String} (ne : name ≠ "success") :
    (flagOfUser name).IsFlag flagContext.table where
  boolean := rfl
  name_ne := ne
  inner := rfl

/-- One flag should have the prefix and the other one should not, and each gets the name of the other. -/
theorem booleanFieldPrefix_policies_active :
    let active := flagOfUser "active"
    let isActive := flagOfUser "isActive"
    let require := flagContext.withPolicy .require
    let forbid := flagContext.withPolicy .forbid
    booleanFieldPrefix.reported forbid (.field active) = [] ∧
    (∃ d, booleanFieldPrefix.reported require (.field active) = [d] ∧ d.fix = some "isActive") ∧
    booleanFieldPrefix.reported require (.field { active with name := "isActive" }) = [] ∧
    booleanFieldPrefix.reported require (.field isActive) = [] ∧
    ∃ d, booleanFieldPrefix.reported forbid (.field isActive) = [d] ∧ d.fix = some "active" := by
  intro active isActive require forbid
  have prefixes : flagContext.options.prefixes = "is" :: ["has", "can", "should", "was"] := rfl
  have free : booleanFieldPrefix.reported forbid (.field active) = [] := by decide +kernel
  have kept : booleanFieldPrefix.reported require (.field isActive) = [] := by decide +kernel
  obtain ⟨one, longer, -⟩ := booleanFieldPrefix_policies flagContext active prefixes (by decide)
    (by decide +kernel) (isFlag_flagOfUser (by decide))
  obtain ⟨-, d, asked⟩ := one.resolve_left fun ⟨_, d, told⟩ => by
    rw [free] at told
    cases told
  obtain ⟨fix, silent⟩ := longer d (asked ▸ List.mem_singleton_self d)
  obtain ⟨one, -, shorter⟩ := booleanFieldPrefix_policies flagContext isActive prefixes (by decide)
    (by decide +kernel) (isFlag_flagOfUser (by decide))
  obtain ⟨-, d', refused⟩ := one.resolve_right fun ⟨_, d, told⟩ => by
    rw [kept] at told
    cases told
  obtain ⟨word, -, words, fix', parts, cut, words_iff, -⟩ :=
    shorter d' (refused ▸ List.mem_singleton_self d')
  have known : split "isActive" = ["is", "Active"] := by decide +kernel
  have ends : fix' = uncapitalized (String.join words) := words_iff.2 (by decide +kernel)
  obtain ⟨rfl, rfl⟩ := List.cons.inj (known.symm.trans parts)
  have named : "is" ++ capitalized active.name = "isActive" := by decide +kernel
  rw [named] at fix silent
  refine ⟨free, ⟨d, asked, fix⟩, silent.2 ?_, kept, d', refused, ?_⟩
  · exact ⟨⟨"is", by decide, by decide +kernel⟩, .inr (by decide +kernel)⟩
  · rw [cut, ends]
    decide +kernel

/-- What is left of a name need not be its words behind the prefix: an underscore in front is cut off
instead of the last character of the prefix, and `sActive` is proposed for `_isActive`. -/
theorem booleanFieldPrefix_fix_underscore :
    ¬∀ (context : Context) (f : Field), context.options.prefixes ≠ [] →
      (∀ p ∈ context.options.prefixes, IsName p ∧ startsLower p) → IsName f.name →
      f.IsFlag context.table →
      ∀ d ∈ booleanFieldPrefix.reported (context.withPolicy .forbid) (.field f),
        d.fix = some (uncapitalized (String.join (split f.name).tail)) := by
  intro behind
  have told : booleanFieldPrefix.reported (flagContext.withPolicy .forbid)
      (.field (flagOfUser "_isActive")) =
        [⟨"BooleanFieldPrefix", .warning, "Boolean field '_isActive' should not start with 'is'",
          ⟨"User", some "_isActive", none, 1, 13⟩, some "sActive"⟩] := by decide +kernel
  have fix := behind flagContext (flagOfUser "_isActive") (by decide) (by decide +kernel)
    (by decide +kernel) (isFlag_flagOfUser (by decide)) _ (told ▸ List.mem_singleton_self _)
  exact absurd fix (by decide +kernel)

end Rule

end SchemaLint

import Mathlib
import SchemaLint.Proofs.Rule.Findings
import SchemaLint.Proofs.Schema.Names
import SchemaLint.Proofs.Word.Casing
import SchemaLint.Proofs.Word.Plural

/-!
# Names that rules propose

Eight rules propose another name for what they find. They make it of the characters of the name that
is there, and of words of their own and of the options. It is a name of the schema language, except
where a digit comes to stand in front, or nothing is left: `Rule.proposes_of_mem_findings`.
-/

namespace SchemaLint

open Sdl (IsName isNameStart isNameContinue)

/-! ## Texts -/

/-- What is found from an offset on does not stand in front of it. -/
lemma Text.le_of_findFrom {part cs : List Char} {offset start : Nat}
    (found : findFrom part offset cs = some start) : offset ≤ start := by
  induction cs generalizing offset with
  | nil =>
    rw [findFrom] at found
    split_ifs at found
    cases found
    exact le_rfl
  | cons c cs ih =>
    rw [findFrom] at found
    split_ifs at found
    · cases found
      exact le_rfl
    · exact (Nat.le_succ offset).trans (ih found)

/-- A part that is found at the place 0 is in front. -/
lemma Text.isPrefix_of_find? {part cs : List Char} (found : find? part cs = some 0) :
    part <+: cs := by
  cases cs with
  | nil =>
    rw [find?, findFrom] at found
    split_ifs at found with empty
    rw [List.isEmpty_iff.1 empty]
  | cons c cs =>
    rw [find?, findFrom] at found
    split_ifs at found with starts
    · exact List.isPrefixOf_iff_prefix.1 starts
    · exact absurd (le_of_findFrom found) (by decide)

/-! ## Names -/

namespace Sdl

/-- The plural of a name is a name. -/
lemma IsName.plural {s : String} (named : IsName s) : IsName (Word.plural s) := by
  obtain ⟨c, cs, eq, start, -⟩ := named.exists_cons
  rw [isName_iff (Word.forall_mem_plural (fun _ => isNameContinue_of_isAlpha) named.chars)]
  unfold Word.plural
  dsimp only
  split_ifs
  · rw [String.toList_append, String.toList_ofList, eq]
    cases cs with
    | nil => exact (by decide +kernel : "ies".toList.head?.any isNameStart)
    | cons d cs => simpa using start
  · simpa [eq] using start
  · simpa [eq] using start

end Sdl

/-! ## What is proposed -/

/-- The name that a place ends with. -/
def Location.name (l : Location) : String := (l.argumentName <|> l.fieldName).getD l.typeName

/-- The place of an entity ends with its name. -/
lemma Location.name_ofEntity (e : Entity) : (ofEntity e).name = e.name := by cases e <;> rfl

namespace Rule

/-- The rules that propose another name. -/
def proposing : List Rule :=
  [.typeCasing, .typeKindSuffix, .fieldCasing, .fieldPlurality, .fieldRedundantName,
    .mutationNaming, .enumValueCasing, .booleanFieldPrefix]

/-- The ids of the rules that change the case of a name. -/
def casing : List String := ["TypeCasing", "FieldCasing", "EnumValueCasing"]

/-- The text starts with a digit. -/
def startsWithDigit (s : String) : Bool := s.toList.head?.any Char.isDigit

/-- Why what the rule of an id proposes for the name of a place is no name: the case is changed of a
name whose first letter or digit is a digit, or that has none; or a front of the name is left out,
because it is a type name that the field repeats or a forbidden word, and a digit is behind it. -/
inductive Spoils (context : Context) (place : Location) : String → String → Prop
  | casing {rule fix} : rule ∈ Rule.casing → Word.startsWithLetter place.name.toList = false →
    Spoils context place rule fix
  | repeated {f part front fix} : .field f ∈ context.table.entities → place = .ofEntity (.field f) →
    context.judgement.repeats context.table f = some part →
    Unicode.lower front = Unicode.lower part → f.name = front ++ fix → startsWithDigit fix →
    Spoils context place "FieldRedundantName" fix
  | forbidden {word fix} : context.options.policy = .forbid → word ∈ context.options.prefixes →
    place.name = word ++ fix → startsWithDigit fix → Spoils context place "BooleanFieldPrefix" fix

/-- What the rule of an id proposes for the name of a place is made of characters of a name. Nothing
is left only of enum values without a letter or digit, and anything else is a name unless a digit
spoils it. -/
structure Proposes (context : Context) (place : Location) (rule fix : String) : Prop where
  chars : ∀ c ∈ fix.toList, isNameContinue c
  empty_iff : fix = "" ↔ rule = "EnumValueCasing" ∧ ∀ c ∈ place.name.toList, c = '_'
  isName_iff : IsName fix ↔ ¬Spoils context place rule fix

variable {context : Context} {place : Location} {rule fix : String}

/-- A name does not start with a digit. -/
lemma not_startsWithDigit (named : IsName fix) : ¬startsWithDigit fix := by
  obtain ⟨c, cs, eq, start, chars⟩ := named.exists_cons
  rw [Sdl.isNameStart_eq_not_isDigit (chars c List.mem_cons_self)] at start
  simpa [startsWithDigit, eq] using start

/-- A name is what has to be proposed by the rules that do not change the case. -/
lemma proposes_of_isName (other : rule ∉ Rule.casing) (named : IsName fix) :
    Proposes context place rule fix where
  chars := named.chars
  empty_iff := by
    refine iff_of_false (fun empty => named.ne_nil (by rw [empty]; rfl)) fun value => other ?_
    rw [value.1]
    decide
  isName_iff := by
    refine iff_of_true named fun spoils => ?_
    cases spoils with
    | casing mem _ => exact other mem
    | repeated _ _ _ _ _ digit => exact not_startsWithDigit named digit
    | forbidden _ _ _ digit => exact not_startsWithDigit named digit

/-- A text of characters of a name has to be proposed by these if it is spoiled whenever it starts
with a digit. -/
lemma proposes_of_digit (other : rule ∉ Rule.casing)
    (chars : ∀ c ∈ fix.toList, isNameContinue c) (ne : fix.toList ≠ [])
    (spoils : startsWithDigit fix → Spoils context place rule fix) :
    Proposes context place rule fix := by
  cases digit : startsWithDigit fix with
  | false =>
    refine proposes_of_isName other ?_
    obtain ⟨c, cs, eq⟩ := List.exists_cons_of_ne_nil ne
    rw [Sdl.isName_iff chars, eq, List.head?_cons, Option.any_some,
      Sdl.isNameStart_eq_not_isDigit (chars c (by simp [eq]))]
    simpa [startsWithDigit, eq] using digit
  | true =>
    refine ⟨chars, iff_of_false (fun empty => ne (by rw [empty]; rfl)) fun value => other ?_,
      iff_of_false (fun named => not_startsWithDigit named digit) fun fine => fine (spoils digit)⟩
    rw [value.1]
    decide

/-- What a change of case gives, of which the first character is the first letter or digit of the
name. -/
lemma proposes_of_casing {f : Char → Char} (mem : rule ∈ Rule.casing)
    (named : IsName place.name) (chars : ∀ c ∈ fix.toList, isNameContinue c)
    (head : fix.toList.head? = (place.name.toList.find? Char.isAlphanum).map f)
    (start : ∀ c, c.isAlphanum → isNameStart (f c) = c.isAlpha)
    (some_left : rule = "EnumValueCasing" ∨ fix ≠ "") : Proposes context place rule fix where
  chars := chars
  empty_iff := by
    have empty_iff : fix = "" ↔ ∀ c ∈ place.name.toList, c = '_' := by
      rw [← String.toList_eq_nil_iff, ← List.head?_eq_none_iff, head, Option.map_eq_none_iff,
        ← Word.find?_ne_underscore named.chars, List.find?_eq_none]
      simp
    rw [empty_iff, iff_and_self]
    exact fun underscores => some_left.resolve_right fun some_left =>
      some_left (empty_iff.2 underscores)
  isName_iff := by
    have letter : IsName fix ↔ Word.startsWithLetter place.name.toList := by
      rw [Sdl.isName_iff chars, head, Option.any_map, Word.startsWithLetter]
      cases found : place.name.toList.find? Char.isAlphanum with
      | none => exact Iff.rfl
      | some c =>
        rw [Option.any_some, Option.any_some, start c (List.find?_some found)]
    rw [letter]
    refine ⟨fun letter spoils => ?_, fun fine => ?_⟩
    · cases spoils with
      | casing _ none =>
        rw [none] at letter
        cases letter
      | repeated _ _ _ _ _ _ => exact absurd mem (by decide)
      | forbidden _ _ _ _ => exact absurd mem (by decide)
    · by_contra other
      exact fine (.casing mem (Bool.eq_false_iff.2 other))

end Rule

namespace Findings

open Rule (Proposes)

/-- What is proposed among the findings of the rule of an id is what it may propose. -/
def Propose (context : Context) (rule : String) (findings : Findings) : Prop :=
  ∀ fs, findings = some fs → ∀ f ∈ fs, ∀ fix, f.fix = some fix →
    Proposes context f.location rule fix

variable {context : Context} {rule : String}

/-- Where nothing is found, nothing is proposed. -/
lemma propose_nothing : Propose context rule .nothing := by
  rintro fs ⟨⟩
  exact List.forall_mem_nil _

/-- One finding proposes what it may if its fix does. -/
lemma propose_one {e : Entity} {message : String} {fix? : Option String}
    (proposes : ∀ fix ∈ fix?, Proposes context (.ofEntity e) rule fix) :
    Propose context rule (.one e message fix?) := by
  rintro fs ⟨⟩
  exact List.forall_mem_singleton.2 proposes

/-- What is found about something that may be missing proposes what it may. -/
lemma propose_bind {α : Type} {first? : Option α} {findings : α → Findings}
    (propose : ∀ x ∈ first?, Propose context rule (findings x)) :
    Propose context rule (first? >>= findings) := by
  intro fs eq
  obtain ⟨x, found, eq⟩ := Option.bind_eq_some_iff.1 eq
  exact propose x found fs eq

/-- A choice between findings proposes what it may if both of them do. -/
lemma propose_ite {p : Prop} [Decidable p] {findings findings' : Findings}
    (propose : Propose context rule findings) (propose' : Propose context rule findings') :
    Propose context rule (if p then findings else findings') := by
  split
  · exact propose
  · exact propose'

end Findings

namespace Rule

open Findings

variable {context : Context} {e : Entity}

section
variable {id description rule : String} {severity : Severity} {heuristic : Bool}

/-- A rule for types proposes what it may if it does so for each type. -/
lemma propose_onTypes {kinds : TypeKind → Bool} {check : Context → TypeDef → Findings}
    (propose : ∀ t, e = .type t → Propose context rule (check context t)) :
    Propose context rule
      ((onTypes id description severity heuristic kinds check).check? context e) :=
  match e with
  | .type t => propose t rfl
  | .field _ => propose_nothing
  | .argument _ => propose_nothing

/-- A rule for fields proposes what it may if it does so for each field. -/
lemma propose_onFields {applies : Context → Field → Bool} {check : Context → Field → Findings}
    (propose : ∀ f, e = .field f → Propose context rule (check context f)) :
    Propose context rule
      ((onFields id description severity heuristic applies check).check? context e) :=
  match e with
  | .type _ => propose_nothing
  | .field f => propose f rfl
  | .argument _ => propose_nothing

end

/-! ### Case -/

/-- A replacement is the new name, which is not empty. -/
lemma eq_of_mem_replacement {name fix fix' : String} (mem : fix' ∈ replacement name fix) :
    fix = fix' ∧ fix' ≠ "" := by
  rw [replacement] at mem
  split_ifs at mem with none
  · cases mem
  · cases mem
    exact ⟨rfl, fun empty => none (.inl empty)⟩

section Characters
variable {c : Char}

/-- But for the underscore, names start with letters. -/
lemma isNameStart_eq_isAlpha (ne : c ≠ '_') : isNameStart c = c.isAlpha := by
  simp [isNameStart, ne]

/-- An underscore is no letter or digit. -/
lemma ne_underscore_of_isAlphanum (char : c.isAlphanum) : c ≠ '_' := by
  rintro rfl
  cases char

end Characters

section
variable {place : Location} {fix : String} (named : IsName place.name)
include named

/-- The PascalCase of a name may be proposed for a type. -/
lemma proposes_toPascal (mem : fix ∈ replacement place.name (Word.toPascal place.name)) :
    Proposes context place "TypeCasing" fix := by
  obtain ⟨rfl, some_left⟩ := eq_of_mem_replacement mem
  have chars := Word.mem_pascalChars named.chars
  refine proposes_of_casing (f := Char.toUpper) (by decide) named ?_ ?_ (fun c char => ?_)
    (.inr some_left)
  · rw [Word.toPascal, String.toList_ofList]
    exact fun c mem => Word.isNameContinue_of_isAlphanum (chars c mem)
  · rw [Word.toPascal, String.toList_ofList, Word.pascalChars_eq named.chars, Word.head?_humps,
      Word.find?_ne_underscore named.chars]
  · rw [isNameStart_eq_isAlpha (Word.toUpper_ne_underscore (ne_underscore_of_isAlphanum char)),
      Char.isAlpha_toUpper_eq_isAlpha]

/-- The camelCase of a name may be proposed for a field. -/
lemma proposes_toCamel (mem : fix ∈ replacement place.name (Word.toCamel place.name)) :
    Proposes context place "FieldCasing" fix := by
  obtain ⟨rfl, some_left⟩ := eq_of_mem_replacement mem
  have chars := Word.mem_camelChars named.chars
  refine proposes_of_casing (f := Char.toLower) (by decide) named ?_ ?_ (fun c char => ?_)
    (.inr some_left)
  · rw [Word.toCamel, String.toList_ofList]
    exact fun c mem => Word.isNameContinue_of_isAlphanum (chars c mem)
  · rw [Word.toCamel, String.toList_ofList, Word.camelChars, Word.head?_lowerFirst,
      Word.pascalChars_eq named.chars, Word.head?_humps, Word.find?_ne_underscore named.chars,
      Option.map_map]
    simp only [Function.comp_def, Char.toLower_toUpper_eq_toLower]
  · rw [isNameStart_eq_isAlpha (Word.toLower_ne_underscore (ne_underscore_of_isAlphanum char)),
      Char.isAlpha_toLower_eq_isAlpha]

/-- The SCREAMING_CASE of a name may be proposed for a value. -/
lemma proposes_toScreaming :
    Proposes context place "EnumValueCasing" (Word.toScreaming place.name) := by
  have chars := Word.mem_screamingChars named.chars
  refine proposes_of_casing (f := Char.toUpper) (by decide) named ?_ ?_ (fun c char => ?_)
    (.inl rfl)
  · rw [Word.toScreaming, String.toList_ofList]
    intro c mem
    have char := chars c mem
    rw [Bool.or_eq_true, Bool.or_eq_true] at char
    rw [isNameContinue, Char.isAlphanum, Char.isAlpha, Bool.or_eq_true, Bool.or_eq_true,
      Bool.or_eq_true]
    exact char.imp_left (.imp_left .inl)
  · rw [Word.toScreaming, String.toList_ofList, Word.head?_screamingChars named.chars,
      Word.find?_ne_underscore named.chars]
  · rw [isNameStart_eq_isAlpha (Word.toUpper_ne_underscore (ne_underscore_of_isAlphanum char)),
      Char.isAlpha_toUpper_eq_isAlpha]

end

/-- The rule on the case of types proposes PascalCase. -/
lemma propose_typeCasing (named : e.Named) :
    Propose context "TypeCasing" (typeCasing.check? context e) := by
  refine propose_onTypes fun t eq => ?_
  cases eq
  exact propose_ite propose_nothing (propose_one fun _ mem => proposes_toPascal named.name mem)

/-- The rule on the case of fields proposes camelCase. -/
lemma propose_fieldCasing (named : e.Named) :
    Propose context "FieldCasing" (fieldCasing.check? context e) := by
  refine propose_ite propose_nothing (propose_one fun fix mem => ?_)
  rw [← Location.name_ofEntity] at mem
  exact proposes_toCamel (Location.name_ofEntity e ▸ named.name) mem

/-- The rule on the case of values proposes SCREAMING_CASE. -/
lemma propose_enumValueCasing (named : e.Named) :
    Propose context "EnumValueCasing" (enumValueCasing.check? context e) := by
  refine propose_onTypes fun t eq => ?_
  cases eq
  rintro fs ⟨⟩
  refine List.forall_mem_map.2 fun v mem => ?_
  rintro fix ⟨⟩
  exact proposes_toScreaming (named.2 v (List.mem_of_mem_filter mem))

/-! ### Endings -/

/-- A name without its ending is one if something is left. -/
lemma isName_dropEnding {name : String} (named : IsName name) {n : Nat} (pos : 0 < n)
    (shorter : n < name.length) : IsName (Word.dropEnding name n) := by
  rw [Word.dropEnding, if_neg pos.ne']
  exact named.take (by omega)

/-- The rule on suffixes for kinds proposes a name without its ending. -/
lemma propose_typeKindSuffix (named : e.Named) :
    Propose context "TypeKindSuffix" (typeKindSuffix.check? context e) := by
  refine propose_onTypes fun t eq => ?_
  cases eq
  dsimp only
  split
  · exact propose_nothing
  · rename_i suffix found
    refine propose_one fun fix mem => ?_
    cases mem
    have known := List.all_eq_true.1 (by decide +kernel :
      ["Enum", "Type", "Scalar"].all fun suffix => 0 < suffix.length) suffix
      (List.mem_of_find?_eq_some found)
    have shorter := List.find?_some found
    rw [Bool.and_eq_true, decide_eq_true_iff] at shorter
    exact proposes_of_isName (by decide)
      (isName_dropEnding named.name (of_decide_eq_true known) shorter.2)

/-- A name with the plural of its last word in the place of this word. -/
lemma isName_dropEnding_append_plural {name last : String} (named : IsName name)
    (last_word : last ∈ (Word.split name).getLast?) :
    IsName (Word.dropEnding name last.length ++ Word.plural last) := by
  rw [Option.mem_def, Word.split, List.getLast?_map, Option.map_eq_some_iff] at last_word
  obtain ⟨w, last_word, rfl⟩ := last_word
  obtain ⟨front, tail, text, form, -, -⟩ :=
    (Word.splits_splitChars name.toList).exists_last last_word
  have length := congrArg List.length text
  rw [List.length_append, List.length_append, String.length_toList] at length
  have pos := List.length_pos_iff.2 form.ne_nil
  rw [String.length_ofList]
  by_cases shorter : w.length < name.length
  · refine (isName_dropEnding named pos shorter).append
      (Word.forall_mem_plural (fun _ => Sdl.isNameContinue_of_isAlpha) fun c mem => ?_)
    rw [String.toList_ofList] at mem
    exact named.chars c (by simp [text, mem])
  · -- the word is the name
    have front_nil : front = [] := List.eq_nil_of_length_eq_zero (by omega)
    have tail_nil : tail = [] := List.eq_nil_of_length_eq_zero (by omega)
    rw [front_nil, tail_nil, List.nil_append, List.append_nil] at text
    have nothing : name.length - w.length = 0 := by omega
    have whole : String.ofList w = name := by rw [← text, String.ofList_toList]
    have empty : Word.dropEnding name w.length = "" := by
      rw [Word.dropEnding, if_neg pos.ne', nothing, List.take_zero]
    rw [whole, empty, String.empty_append]
    exact named.plural

/-- The rule on the plurality of fields proposes a name with an ending, or one without. -/
lemma propose_fieldPlurality (named : e.Named) :
    Propose context "FieldPlurality" (fieldPlurality.check? context e) := by
  refine propose_onFields fun f eq => ?_
  cases eq
  refine propose_ite (propose_ite (propose_bind fun last mem => propose_one ?_) propose_nothing)
    (propose_ite (propose_one nofun) propose_nothing)
  intro fix proposed
  rw [← Option.some.inj proposed]
  exact proposes_of_isName (by decide) (isName_dropEnding_append_plural named mem)

/-! ### Fronts -/

/-- What is behind the verb of a name is made of characters of names. -/
lemma chars_verbAndObject {name : String} (named : IsName name) :
    ∀ c ∈ (Word.verbAndObject name).2.toList, isNameContinue c := by
  unfold Word.verbAndObject
  split
  · exact List.forall_mem_nil _
  · rw [String.toList_ofList]
    exact fun c mem => named.chars c (List.mem_of_mem_drop mem)

/-- A verb that is proposed instead of another is a name. -/
lemma isName_of_mem_allowedSynonym? {verb synonym : String}
    (mem : synonym ∈ allowedSynonym? o verb) : IsName synonym := by
  obtain ⟨mapped, -⟩ := Option.filter_eq_some_iff.1 mem
  obtain ⟨pair, found, rfl⟩ := Option.map_eq_some_iff.1 mapped
  have known := List.all_eq_true.1 (by decide +kernel : verbSynonyms.all fun pair =>
    decide (IsName pair.2)) pair (List.mem_of_find?_eq_some found)
  exact of_decide_eq_true known

/-- The rule on the names of mutations proposes another verb, or one in front. -/
lemma propose_mutationNaming (named : e.Named) :
    Propose context "MutationNaming" (mutationNaming.check? context e) := by
  refine propose_onFields fun f eq => ?_
  cases eq
  have chars := chars_verbAndObject named
  revert chars
  dsimp only [Entity.name]
  generalize Word.verbAndObject f.name = parts
  intro chars
  refine propose_ite propose_nothing (propose_one fun fix mem => ?_)
  split_ifs at mem
  · obtain ⟨synonym, found, rfl⟩ := Option.map_eq_some_iff.1 mem
    exact proposes_of_isName (by decide) ((isName_of_mem_allowedSynonym? found).append chars)
  · cases mem

/-- A small first letter does not spoil a name. -/
lemma chars_lowerFirst {cs : List Char} (chars : ∀ c ∈ cs, isNameContinue c) :
    ∀ c ∈ Word.lowerFirst cs, isNameContinue c := by
  cases cs with
  | nil => exact chars
  | cons c cs =>
    obtain ⟨char, chars⟩ := List.forall_mem_cons.1 chars
    exact List.forall_mem_cons.2 ⟨Sdl.isNameContinue_toLower char, chars⟩

/-- A capital in front does not spoil a name. -/
lemma chars_capitalized {name : String} (named : IsName name) :
    ∀ c ∈ (Word.capitalized name).toList, isNameContinue c := by
  obtain ⟨c, cs, eq, -, chars⟩ := named.exists_cons
  obtain ⟨char, chars⟩ := List.forall_mem_cons.1 chars
  rw [Word.capitalized, String.toList_ofList, eq, Word.upperFirst]
  exact List.forall_mem_cons.2 ⟨Sdl.isNameContinue_toUpper char, chars⟩

/-- A digit in front is not lowered. -/
lemma digit_of_startsWithDigit {cs : List Char}
    (digit : startsWithDigit (String.ofList (Word.lowerFirst cs))) :
    cs.head?.any Char.isDigit ∧ Word.lowerFirst cs = cs := by
  rw [startsWithDigit, String.toList_ofList] at digit
  cases cs with
  | nil => cases digit
  | cons c cs =>
    rw [Word.lowerFirst, List.head?_cons, Option.any_some, Word.isDigit_toLower] at digit
    have other : c.isAlpha = false := Bool.eq_false_iff.2 fun letter => by
      rw [Word.isDigit_eq_false_of_isAlpha letter] at digit
      cases digit
    rw [Word.lowerFirst, Word.toLower_of_isAlpha_eq_false other]
    exact ⟨digit, rfl⟩

/-- What is left of a name without a part is what is in front of it and behind it, with a small
first letter. -/
lemma exists_of_mem_withoutPart {name part fix : String} (mem : fix ∈ withoutPart name part) :
    ∃ start, Text.find? (Unicode.lower part).toList (Unicode.lower name).toList = some start ∧
      name.toList.take start ++ name.toList.drop (start + part.length) ≠ [] ∧
      fix = String.ofList
        (Word.lowerFirst (name.toList.take start ++ name.toList.drop (start + part.length))) := by
  rw [withoutPart] at mem
  split at mem
  · cases mem
  · rename_i start found
    split at mem
    · cases mem
    · rename_i ne
      cases mem
      exact ⟨start, found, ne, rfl⟩

/-- A text with a small first letter is not empty if the text is not. -/
lemma lowerFirst_ne_nil {cs : List Char} (ne : cs ≠ []) : Word.lowerFirst cs ≠ [] := by
  obtain ⟨c, cs, rfl⟩ := List.exists_cons_of_ne_nil ne
  exact List.cons_ne_nil _ _

/-- The front of a name is a text, letter case aside, if the lower case of the name starts with that
of the text. -/
lemma lower_take {name part : String} (named : IsName name)
    (starts : (Unicode.lower part).toList <+: (Unicode.lower name).toList) :
    Unicode.lower (String.ofList (name.toList.take part.length)) = Unicode.lower part := by
  have ascii : ∀ c ∈ name.toList, c.toNat < 128 := fun c mem =>
    Word.toNat_lt_of_isNameContinue (named.chars c mem)
  have length : (Unicode.lower part).toList.length = part.length := by
    refine Unicode.length_lower fun c mem => ?_
    have mem_lower := starts.subset mem
    rw [Unicode.toList_lower ascii] at mem_lower
    obtain ⟨d, mem_name, rfl⟩ := List.mem_map.1 mem_lower
    exact Word.toNat_lt_of_isNameContinue (Sdl.isNameContinue_toLower (named.chars d mem_name))
  apply String.toList_injective
  rw [Unicode.toList_lower, List.prefix_iff_eq_take.1 starts, length, Unicode.toList_lower ascii,
    String.toList_ofList, List.map_take]
  rw [String.toList_ofList]
  exact fun c mem => ascii c (List.mem_of_mem_take mem)

/-- A name without the type name that it repeats may be proposed for a field. -/
lemma proposes_withoutPart {f : Field} {part fix : String} (named : IsName f.name)
    (memF : .field f ∈ context.table.entities)
    (repeats : context.judgement.repeats context.table f = some part)
    (mem : fix ∈ withoutPart f.name part) :
    Proposes context (.ofEntity (.field f)) "FieldRedundantName" fix := by
  obtain ⟨start, found, ne, rfl⟩ := exists_of_mem_withoutPart mem
  refine proposes_of_digit (by decide) ?_ ?_ fun digit => ?_
  · rw [String.toList_ofList]
    refine chars_lowerFirst (List.forall_mem_append.2 ⟨?_, ?_⟩)
    · exact fun c mem => named.chars c (List.mem_of_mem_take mem)
    · exact fun c mem => named.chars c (List.mem_of_mem_drop mem)
  · rw [String.toList_ofList]
    exact lowerFirst_ne_nil ne
  · obtain ⟨first, same⟩ := digit_of_startsWithDigit digit
    obtain ⟨c, cs, text, letter, chars⟩ := named.exists_cons
    have no_digit : c.isDigit = false := by
      simpa [Sdl.isNameStart_eq_not_isDigit (chars c List.mem_cons_self)] using letter
    -- the first character of the name is gone
    have front : start = 0 := by
      by_contra some_left
      obtain ⟨m, rfl⟩ := Nat.exists_eq_succ_of_ne_zero some_left
      simp [text, no_digit] at first
    rw [front] at found
    rw [same, front, List.take_zero, List.nil_append, Nat.zero_add] at digit ⊢
    refine .repeated memF rfl repeats (lower_take named (Text.isPrefix_of_find? found)) ?_ digit
    rw [← String.ofList_append, List.take_append_drop, String.ofList_toList]

/-- The rule on redundant names proposes a name without the type name that it repeats. -/
lemma propose_fieldRedundantName (named : e.Named) (memE : e ∈ context.table.entities) :
    Propose context "FieldRedundantName" (fieldRedundantName.check? context e) := by
  refine propose_onFields fun f eq => propose_ite propose_nothing ?_
  cases eq
  split
  · exact propose_nothing
  · rename_i part repeats
    exact propose_one fun fix mem => proposes_withoutPart named memE repeats mem

/-- A word that is a name has no digits. -/
lemma isDigit_eq_false_of_form {w : List Char} (form : Word.Form w)
    (named : IsName (String.ofList w)) : ∀ c ∈ w, c.isDigit = false := by
  obtain ⟨c, cs, eq, start, chars⟩ := named.exists_cons
  rw [String.toList_ofList] at eq
  rcases form.letters_or_digits with letters | digits
  · exact fun c mem => Word.isDigit_eq_false_of_isAlpha (letters c mem)
  · have char := chars c List.mem_cons_self
    rw [Sdl.isNameStart_eq_not_isDigit char,
      ← Word.isDecimal_eq_isDigit (Word.toNat_lt_of_isNameContinue char),
      digits c (by simp [eq])] at start
    cases start

/-- If a digit is in front when as many characters as the first word has are left out of a name, it
is the word that is left out. -/
lemma eq_append_of_digit {name word : String} {words : List String} (named : IsName name)
    (word_named : IsName word) (split : Word.split name = word :: words)
    (digit : (name.toList.drop word.length).head?.any Char.isDigit) :
    name = word ++ String.ofList (name.toList.drop word.length) := by
  obtain ⟨gap, rest, text, separators, form, -⟩ := Word.exists_of_split_eq_cons split
  rw [← String.length_toList, text] at digit ⊢
  rcases List.eq_nil_or_concat' gap with rfl | ⟨gap, c, rfl⟩
  · rw [List.nil_append, List.drop_left, ← String.toList_inj, String.toList_append,
      String.toList_ofList, text, List.nil_append]
  · -- the word starts later, and up to its end there is no digit
    have no_digit : ∀ d ∈ gap ++ [c] ++ word.toList, d.isDigit = false := by
      refine List.forall_mem_append.2 ⟨fun d mem => ?_, ?_⟩
      · have char := named.chars d (by
          rw [text]
          exact List.mem_append_left _ (List.mem_append_left _ mem))
        rw [(Word.isSeparator_iff char).1 (separators d mem)]
        rfl
      · exact isDigit_eq_false_of_form form (String.ofList_toList.symm ▸ word_named)
    have longer : word.toList.length < (gap ++ [c] ++ word.toList).length := by
      rw [List.length_append, List.length_append, List.length_singleton]
      omega
    rw [List.drop_append_of_le_length longer.le,
      List.head?_append_of_ne_nil _ (mt List.drop_eq_nil_iff.1 longer.not_ge),
      Option.any_eq_true] at digit
    obtain ⟨d, head, digit⟩ := digit
    rw [no_digit d (List.mem_of_mem_drop (List.mem_of_mem_head? head))] at digit
    cases digit

/-- Some characters are left behind the first one of several words. -/
lemma drop_ne_nil_of_split {name word second : String} {words : List String} (named : IsName name)
    (split : Word.split name = word :: second :: words) : name.toList.drop word.length ≠ [] := by
  have letters := Word.flatMap_toList_split named.chars
  rw [split, List.flatMap_cons, List.flatMap_cons] at letters
  obtain ⟨-, rest, -, -, -, behind⟩ := Word.exists_of_split_eq_cons split
  obtain ⟨-, -, -, -, form, -⟩ := Word.exists_of_split_eq_cons behind
  have some_letter := List.length_pos_iff.2 form.ne_nil
  have length := congrArg List.length letters
  have le := List.length_filter_le (· ≠ '_') name.toList
  rw [List.length_append, List.length_append] at length
  rw [← String.length_toList, ne_eq, List.drop_eq_nil_iff]
  omega

/-- A prefix that is found is a first word, and there is a second one. -/
lemma exists_split_of_leadingPrefix? {ps : List String} {name word : String}
    (found : leadingPrefix? ps name = some word) :
    word ∈ ps ∧ ∃ second words, Word.split name = word :: second :: words := by
  rw [leadingPrefix?] at found
  split at found
  · rename_i first second words split
    split_ifs at found with mem
    cases found
    exact ⟨List.contains_iff_mem.1 mem, second, words, split⟩
  · cases found

/-- The rule on truth values proposes a name with a prefix, or one without. -/
lemma propose_booleanFieldPrefix (named : e.Named)
    (prefixes : ∀ p ∈ context.options.prefixes, IsName p) :
    Propose context "BooleanFieldPrefix" (booleanFieldPrefix.check? context e) := by
  refine propose_onFields fun f eq => ?_
  cases eq
  dsimp only
  split
  · refine propose_one fun fix mem => ?_
    obtain ⟨p, found, rfl⟩ := Option.map_eq_some_iff.1 mem
    exact proposes_of_isName (by decide)
      ((prefixes p (List.mem_of_mem_head? found)).append (chars_capitalized named))
  · rename_i word forbid found
    refine propose_one fun fix mem => ?_
    rw [← Option.some.inj mem]
    obtain ⟨allowed, second, words, split⟩ := exists_split_of_leadingPrefix? found
    rw [Word.uncapitalized, String.toList_ofList]
    refine proposes_of_digit (by decide) ?_ ?_ fun digit => ?_
    · rw [String.toList_ofList]
      exact chars_lowerFirst fun c mem => named.chars c (List.mem_of_mem_drop mem)
    · rw [String.toList_ofList]
      exact lowerFirst_ne_nil (drop_ne_nil_of_split named split)
    · obtain ⟨first, same⟩ := digit_of_startsWithDigit digit
      rw [same] at digit ⊢
      exact .forbidden forbid allowed
        (eq_append_of_digit named (prefixes word allowed) split first) digit
  · exact propose_nothing

/-- What a rule proposes for the name of an entity of a table, or for that of an enum value, is a
name unless nothing is left of it or a digit spoils it. -/
lemma proposes_of_mem_findings {rule : Rule} (mem : rule ∈ proposing) (named : e.Named)
    (memE : e ∈ context.table.entities) (prefixes : ∀ p ∈ context.options.prefixes, IsName p)
    {f : Finding} (found : f ∈ rule.findings context e) {fix : String} (fixed : f.fix = some fix) :
    Proposes context f.location rule.id fix := by
  have propose : Propose context rule.id (rule.check? context e) := by
    clear found
    revert rule
    simp only [proposing, List.forall_mem_cons]
    exact ⟨propose_typeCasing named, propose_typeKindSuffix named, propose_fieldCasing named,
      propose_fieldPlurality named, propose_fieldRedundantName named memE,
      propose_mutationNaming named, propose_enumValueCasing named,
      propose_booleanFieldPrefix named prefixes, nofun⟩
  rw [findings] at found
  cases eq : rule.check? context e with
  | none => simp [eq] at found
  | some fs =>
    rw [eq, Option.getD_some] at found
    exact propose fs eq f found fix fixed

end Rule

end SchemaLint

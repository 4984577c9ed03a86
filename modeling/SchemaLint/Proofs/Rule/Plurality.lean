import Mathlib
import SchemaLint.Proofs.Rule.Findings
import SchemaLint.Proofs.Rule.Reserved
import SchemaLint.Proofs.Word.Plural
import SchemaLint.Proofs.Word.Suffix

/-!
# What becomes of a list field that is given a plural name

The check of plurality replaces the last word of the name of a list field by its plural. The plural
of a word and the judgement of one are two independent tables of endings, and the new name is split
again, so the field under the new name may be found again: `fieldPlurality_fix`.
-/

namespace SchemaLint

/-- The rule looks at the entity and finds something. -/
def Rule.Reports (rule : Rule) (context : Context) (e : Entity) : Prop :=
  rule.appliesTo context e ∧ rule.findings context e ≠ []

namespace Word

open Lexicon (english)

variable {w p q cs front tail : List Char} {y : Char} {name : String}

/-- The plural of the word `w` only takes an `s`, and does not read as a plural in the name `fix`: it
has a `u` or an `i` in front of the `s`, or it is the last word of the name and is of two letters or
listed as a singular word. -/
def KeepsSingular (w fix : String) : Prop :=
  plural w = w ++ "s" ∧
    (endsWith (Unicode.lower w) "u" ∨ endsWith (Unicode.lower w) "i" ∨
      last fix = w ++ "s" ∧
        (w.length = 1 ∨ Unicode.lower (w ++ "s") ∈ english.singulars))

/-- The name with the plural of its last word in the place of this word. -/
def pluralized (name : String) : String :=
  dropEnding name (last name).length ++ plural (last name)

/-- An `s` behind the characters of a text stands behind the text. -/
lemma ofList_append_s : String.ofList w ++ "s" = String.ofList (w ++ ['s']) := by
  rw [String.ofList_append]

/-- The last word of a text. -/
lemma last_eq_of_getLast? (last_word : (splitChars cs).getLast? = some w) :
    last (String.ofList cs) = String.ofList w := by
  rw [last, split, String.toList_ofList, List.getLast?_map, last_word]
  rfl

/-- A name is plural if its last word is. -/
lemma isPluralName_eq (isPlural : String → Option Bool)
    (last_word : (splitChars cs).getLast? = some w) :
    isPluralName isPlural (String.ofList cs) = isPlural (String.ofList w) := by
  rw [isPluralName, split, String.toList_ofList, List.getLast?_map, last_word]
  rfl

/-- Letters are made small one by one. -/
lemma toList_lower_ofList (letters : ∀ c ∈ w, c.isAlpha) :
    (Unicode.lower (String.ofList w)).toList = w.map Char.toLower := by
  rw [Unicode.toList_lower, String.toList_ofList]
  rw [String.toList_ofList]
  exact fun c mem => toNat_lt_of_isAlpha (letters c mem)

/-- A word ends with a letter if its last one is this in either case. -/
lemma endsWith_lower {x : Char} {suffix : String} (letters : ∀ c ∈ w ++ [y], c.isAlpha)
    (one : suffix.toList = [x]) :
    endsWith (Unicode.lower (String.ofList (w ++ [y]))) suffix ↔ y.toLower = x := by
  rw [endsWith, toList_lower_ofList letters, List.isSuffixOf_iff_suffix, List.map_append, one,
    List.map_singleton, List.suffix_iff_eq_drop]
  simp [eq_comm]

/-- How the word reads that the plural of a word gives behind a first part of it. -/
lemma isPlural_append_s (letters : ∀ c ∈ w ++ [y], c.isAlpha) (other : y.toLower ≠ 's')
    (start : q <+: w ++ [y]) :
    english.isPlural (String.ofList (q ++ (w ++ [y] ++ ['s']))) = some false ↔
      (y.toLower = 'u' ∨ y.toLower = 'i') ∨
        q = [] ∧ (w = [] ∨ Unicode.lower (String.ofList (w ++ [y] ++ ['s'])) ∈ english.singulars) := by
  have text : (Unicode.lower (String.ofList (q ++ (w ++ [y] ++ ['s'])))).toList =
      (q ++ w).map Char.toLower ++ [y.toLower, 's'] := by
    rw [toList_lower_ofList]
    · simp
    · exact List.forall_mem_append.2 ⟨fun c mem => letters c (start.subset mem),
        List.forall_mem_append.2 ⟨letters, List.forall_mem_singleton.2 rfl⟩⟩
  rw [isPlural_eq_some_false text other, List.map_eq_nil_iff, List.append_eq_nil_iff, and_or_left]
  refine or_congr_right (or_congr_right ⟨fun singular => ?_, ?_⟩)
  · have nil : q.map Char.toLower = [] := by
      refine eq_nil_of_doubled singular ?_
      rw [text, List.map_append, List.append_assoc, List.prefix_append_right_inj]
      have more := start.map Char.toLower
      rw [List.map_append] at more
      exact more.trans ⟨['s'], by simp⟩
    rw [List.map_eq_nil_iff] at nil
    rw [nil, List.nil_append] at singular
    exact ⟨nil, singular⟩
  · rintro ⟨rfl, singular⟩
    exact singular

/-- A plural in `-es` is the end of a last word that is not judged singular. -/
lemma isPlural_of_es {c : Char} (letter : c.isAlpha) (mem : c.toLower ∈ ['i', 's', 'x', 'z', 'h']) :
    isPluralName english.isPlural (String.ofList (cs ++ [c, 'e', 's'])) ≠ some false := by
  obtain ⟨v, last_word, t, rfl⟩ : ∃ v, (splitChars (cs ++ [c, 'e', 's'])).getLast? = some v ∧
      [c, 'e', 's'] <:+ v := exists_getLast?_of_small letter rfl rfl
  rw [isPluralName_eq _ last_word]
  have form := (splits_splitChars _).form _ (List.mem_of_getLast? last_word)
  have letters := form.letters_or_digits.resolve_right fun digit => by
    have digit := isAlpha_eq_false (digit c (by simp))
    rw [letter] at digit
    cases digit
  refine isPlural_ne_some_false (v := t.map Char.toLower) ?_ mem
  rw [toList_lower_ofList letters, List.map_append]
  rfl

/-- A name that is judged singular ends with a word of letters and underscores. -/
lemma exists_singular (chars : ∀ c ∈ name.toList, Sdl.isNameContinue c)
    (singular : isPluralName english.isPlural name = some false) :
    ∃ front w tail, name = String.ofList (front ++ w ++ tail) ∧ last name = String.ofList w ∧
      Form w ∧ Parted front (w ++ tail) ∧ (∀ c ∈ tail, c = '_') ∧ ∀ c ∈ w, c.isAlpha := by
  obtain ⟨cs, rfl⟩ : ∃ cs, name = String.ofList cs := ⟨name.toList, String.ofList_toList.symm⟩
  rw [String.toList_ofList] at chars
  rw [isPluralName, split, String.toList_ofList, List.getLast?_map, Option.bind_eq_some_iff] at singular
  obtain ⟨_, found, judged⟩ := singular
  obtain ⟨w, last_word, rfl⟩ := Option.map_eq_some_iff.1 found
  obtain ⟨front, tail, rfl, form, parted, separators⟩ := (splits_splitChars cs).exists_last last_word
  refine ⟨front, w, tail, rfl, last_eq_of_getLast? last_word, form, parted, fun c mem => ?_,
    isAlpha_of_isPlural form (fun c mem => toNat_lt_of_isNameContinue (chars c ?_)) judged⟩
  · exact (isSeparator_iff (chars c (List.mem_append_right _ mem))).1 (separators c mem)
  · exact List.mem_append_left _ (List.mem_append_right _ mem)

/-- A regular plural `w` with an `s` behind the front `front` and the part `p` of a text: how it
reads, and where it is a word of its own. -/
lemma isPluralName_regular (form : Form w) (letters : ∀ c ∈ w, c.isAlpha)
    (regular : plural (String.ofList w) = String.ofList w ++ "s")
    (other : ∀ c ∈ w.getLast?, c.toLower ≠ 's') (parted : Parted front (w ++ tail))
    (separators : ∀ c ∈ tail, isSeparator c) (start : p <+: w) :
    let fix := String.ofList (front ++ p ++ (w ++ ['s']))
    (isPluralName english.isPlural fix = some false ↔ KeepsSingular (String.ofList w) fix) ∧
    (p = [] → last fix = plural (String.ofList w)) := by
  obtain ⟨q, start, whole, last_word⟩ :=
    exists_getLast?_append_s form letters other parted separators start
  obtain ⟨u, y, rfl⟩ := (List.eq_nil_or_concat' w).resolve_left form.ne_nil
  have last_plural : last (String.ofList (front ++ p ++ (u ++ [y] ++ ['s']))) =
      String.ofList (u ++ [y] ++ ['s']) ↔ q = [] := by
    rw [last_eq_of_getLast? last_word, String.ofList_inj, List.append_left_eq_self]
  intro fix
  rw [isPluralName_eq _ last_word, KeepsSingular, regular, ofList_append_s, last_plural]
  refine ⟨?_, whole⟩
  have one : (String.ofList (u ++ [y])).length = 1 ↔ u = [] := by simp
  rw [isPlural_append_s letters (other y List.getLast?_concat) start,
    endsWith_lower letters (x := 'u') (by decide), endsWith_lower letters (x := 'i') (by decide),
    one, ← or_assoc, and_iff_right rfl]

/-- The name with the plural of its last word, where it is known what is left of the name without as
many characters as the word has. -/
lemma pluralized_eq (form : Form w) {stem : List Char}
    (last_name : last (String.ofList cs) = String.ofList w)
    (left : cs.take (cs.length - w.length) = stem) :
    pluralized (String.ofList cs) = String.ofList stem ++ plural (String.ofList w) := by
  have some_left : (String.ofList w).length ≠ 0 := by simpa using form.ne_nil
  rw [pluralized, last_name, dropEnding, if_neg some_left, String.length_ofList,
    String.length_ofList, String.toList_ofList, left]

/-- What is made of a name whose last word is singular: it reads as singular again just if the word
keeps being one, and if no underscore ends the name, then a plural that takes an `s` is the last
word. -/
lemma isPluralName_pluralized (chars : ∀ c ∈ name.toList, Sdl.isNameContinue c)
    (singular : isPluralName english.isPlural name = some false) :
    (isPluralName english.isPlural (pluralized name) = some false ↔
      KeepsSingular (last name) (pluralized name)) ∧
    (name.toList.getLast? ≠ some '_' → plural (last name) = last name ++ "s" →
      last (pluralized name) = plural (last name)) := by
  obtain ⟨front, w, tail, rfl, last_name, form, parted, underscores, letters⟩ :=
    exists_singular chars singular
  have separators : ∀ c ∈ tail, isSeparator c := fun c mem => by
    rw [underscores c mem]
    rfl
  obtain ⟨front', p, stem, start, parted', whole⟩ := exists_stem parted separators
  rw [pluralized_eq form last_name stem, last_name]
  have some_letter : (String.ofList w).toList ≠ [] := by simpa using form.ne_nil
  rcases plural_cases some_letter (by simpa using letters)
    with ⟨regular, other⟩ | ⟨irregular, t, c, text, letter, mem⟩
  · have text : String.ofList (front' ++ p) ++ plural (String.ofList w) =
        String.ofList (front' ++ p ++ (w ++ ['s'])) := by
      rw [regular, ofList_append_s, ← String.ofList_append]
    rw [text]
    obtain ⟨reads, alone⟩ :=
      isPluralName_regular form letters regular (by simpa using other) parted' separators start
    refine ⟨reads, fun no_underscore _ => alone (whole ?_)⟩
    rcases List.eq_nil_or_concat' tail with nil | ⟨t, c, rfl⟩
    · exact nil
    · rw [String.toList_ofList, ← List.append_assoc, List.getLast?_concat,
        underscores c (by simp)] at no_underscore
      exact absurd rfl no_underscore
  · refine ⟨iff_of_false ?_ fun keeps => irregular keeps.1, fun _ regular => absurd regular irregular⟩
    rw [← String.ofList_toList (s := plural (String.ofList w)), text, ← String.ofList_append,
      ← List.append_assoc]
    exact isPlural_of_es letter mem

/-! ## Reserved names -/

/-- The new name is reserved only if the old one is. -/
lemma isReserved_pluralized (letters : ∀ c ∈ (last name).toList, c.isAlpha)
    (reserved : isReserved (pluralized name)) : isReserved name := by
  have other : ∀ c ∈ (plural (last name)).toList.head?, c ≠ '_' := by
    rintro c mem rfl
    have letter := forall_mem_plural (fun _ letter => letter) letters '_' (List.mem_of_head? mem)
    cases letter
  rw [pluralized, isReserved_append other] at reserved
  exact isReserved_of_isPrefix (dropEnding_isPrefix name _) reserved

end Word

namespace Rule

open Word (isPluralName pluralized)

variable {context : Context} {f : Field}

/-- A list with a singular name is told, and the plural is proposed. -/
lemma findings_fieldPlurality_of_singular (list : f.type.isList)
    (singular : isPluralName context.judgement.isPlural f.name = some false) :
    fieldPlurality.findings context (.field f) =
      [⟨s!"List field '{f.name}' should have a plural name", some (pluralized f.name),
        .ofEntity (.field f)⟩] := by
  obtain ⟨w, last_word, -⟩ := Option.bind_eq_some_iff.1 singular
  have last_name : Word.last f.name = w := by rw [Word.last, last_word, Option.getD_some]
  simp only [findings, fieldPlurality, onFields, checkFields, list, singular, last_word, if_true,
    pluralized, last_name]
  rfl

/-- Of a list field, only a name that reads as singular is reported. -/
lemma fieldPlurality_reports_iff (list : f.type.isList) :
    fieldPlurality.Reports context (.field f) ↔
      (f.type.name ≠ "Boolean" ∧ ¬isReserved f.name) ∧
        isPluralName context.judgement.isPlural f.name = some false := by
  have applies : fieldPlurality.appliesTo context (.field f) ↔
      f.type.name ≠ "Boolean" ∧ ¬isReserved f.name := by
    simp [fieldPlurality, onFields]
  refine and_congr applies ⟨fun found => ?_, fun singular => ?_⟩
  · by_contra other
    refine found ?_
    simp only [findings, fieldPlurality, onFields, checkFields, list, if_true, if_neg other]
    rfl
  · rw [findings_fieldPlurality_of_singular list singular]
    exact List.cons_ne_nil _ _

/-- A list field that is reported gets the plural of its last word for a fix. Under the new name it is
reported again just if the word keeps its singular: that is, if the plural only takes an `s` behind a
`u` or an `i`, or is the last word of the new name and is of two letters or listed as singular. In
place of the last word of a name that no underscore ends, such a plural is the last word. -/
theorem fieldPlurality_fix (context : Context) (f : Field)
    (judge : context.judgement.isPlural = Word.Lexicon.english.isPlural)
    (chars : ∀ c ∈ f.name.toList, Sdl.isNameContinue c) (list : f.type.isList)
    (reported : fieldPlurality.Reports context (.field f)) :
    let fix := pluralized f.name
    (fieldPlurality.findings context (.field f)).map (·.fix) = [some fix] ∧
    (fieldPlurality.Reports context (.field { f with name := fix }) ↔
      Word.KeepsSingular (Word.last f.name) fix) ∧
    (f.name.toList.getLast? ≠ some '_' → Word.plural (Word.last f.name) = Word.last f.name ++ "s" →
      Word.last fix = Word.plural (Word.last f.name)) := by
  intro fix
  obtain ⟨⟨not_boolean, not_reserved⟩, singular⟩ := (fieldPlurality_reports_iff list).1 reported
  rw [findings_fieldPlurality_of_singular list singular]
  refine ⟨rfl, ?_⟩
  rw [judge] at singular
  obtain ⟨reads, alone⟩ := Word.isPluralName_pluralized chars singular
  refine ⟨?_, alone⟩
  obtain ⟨_, _, _, -, last_name, -, -, -, letters⟩ := Word.exists_singular chars singular
  have still : ¬isReserved fix := fun reserved =>
    not_reserved (Word.isReserved_pluralized (by rwa [last_name, String.toList_ofList]) reserved)
  have renamed : fieldPlurality.Reports context (.field { f with name := fix }) ↔ _ :=
    fieldPlurality_reports_iff list
  rw [renamed, judge, and_iff_right ⟨not_boolean, still⟩]
  exact reads

/-- A list field of the type `Dish`. -/
def listOfDish (name : String) : Field :=
  ⟨name, "Dish", ⟨"Int", true, 1, some true, "[Int]"⟩, [], ⟨1, 13⟩⟩

/-- What a rule looks at by default, in the schema `type Dish { sideDish: [Int], menu: [Int] }`. -/
def dishContext : Context where
  table := .ofTypes
    [⟨"Dish", .object, [listOfDish "sideDish", listOfDish "menu"], [], [], [], ⟨1, 6⟩⟩] [] "<schema>"
  options := .default
  judgement := .ofNames []

/-- The plural of `dish` reads as one. -/
theorem fieldPlurality_fix_dish :
    let f := listOfDish "sideDish"
    dishContext.judgement.isPlural = Word.Lexicon.english.isPlural ∧
    (∀ c ∈ f.name.toList, Sdl.isNameContinue c) ∧ f.type.isList ∧
    fieldPlurality.Reports dishContext (.field f) ∧
    pluralized f.name = "sideDishes" ∧
    (fieldPlurality.findings dishContext (.field f)).map (·.fix) = [some (pluralized f.name)] ∧
    ¬fieldPlurality.Reports dishContext (.field { f with name := pluralized f.name }) := by
  intro f
  have chars : ∀ c ∈ f.name.toList, Sdl.isNameContinue c := List.all_eq_true.1 (by decide +kernel)
  have singular : isPluralName dishContext.judgement.isPlural f.name = some false := by decide +kernel
  have reported : fieldPlurality.Reports dishContext (.field f) :=
    (fieldPlurality_reports_iff rfl).2 ⟨by decide, singular⟩
  obtain ⟨fix, again, -⟩ := fieldPlurality_fix dishContext f rfl chars rfl reported
  have es : Word.plural (Word.last "sideDish") ≠ Word.last "sideDish" ++ "s" := by decide +kernel
  have dishes : pluralized "sideDish" = "sideDishes" := by decide +kernel
  exact ⟨rfl, chars, rfl, reported, dishes, fix, fun reports => es (again.1 reports).1⟩

/-- The plural of `menu` ends like `status`, and is told to be singular. -/
theorem fieldPlurality_fix_menu :
    let f := listOfDish "menu"
    dishContext.judgement.isPlural = Word.Lexicon.english.isPlural ∧
    (∀ c ∈ f.name.toList, Sdl.isNameContinue c) ∧ f.type.isList ∧
    fieldPlurality.Reports dishContext (.field f) ∧
    (fieldPlurality.findings dishContext (.field f)).map (·.fix) = [some "menus"] ∧
    fieldPlurality.Reports dishContext (.field { f with name := "menus" }) := by
  intro f
  have singular : isPluralName dishContext.judgement.isPlural f.name = some false := by decide +kernel
  have menus : pluralized f.name = "menus" := by decide +kernel
  have again : isPluralName dishContext.judgement.isPlural "menus" = some false := by decide +kernel
  refine ⟨rfl, List.all_eq_true.1 (by decide +kernel), rfl,
    (fieldPlurality_reports_iff rfl).2 ⟨by decide, singular⟩, ?_, ?_⟩
  · rw [findings_fieldPlurality_of_singular rfl singular, List.map_singleton, menus]
  · exact (fieldPlurality_reports_iff rfl).2 ⟨by decide, again⟩

end Rule

end SchemaLint

import Mathlib
import SchemaLint.Proofs.Word.LastWord
import SchemaLint.Word.Plural

/-!
# Plurals and their judgement

The plural of a word is made by one table of endings and judged by another one. A plural in `-es` is
never judged singular. One that only takes an `s` is so behind a `u` or an `i`, if it is of two
letters, and if the lexicon lists it.
-/

namespace SchemaLint

namespace Unicode

variable {before cs : List Char} {s : String}

/-- ASCII characters are made small one by one, by induction on them. -/
lemma lowerAfter_eq_map (ascii : ∀ c ∈ cs, c.toNat < 128) :
    lowerAfter before cs = cs.map Char.toLower := by
  induction cs generalizing before with
  | nil => rfl
  | cons c cs ih =>
    obtain ⟨first, ascii⟩ := List.forall_mem_cons.1 ascii
    have no_sigma : c ≠ 'Σ' := by
      rintro rfl
      exact absurd first (by decide)
    rw [lowerAfter, ih ascii, if_neg no_sigma, lowerChar, if_pos first]
    rfl

/-- Below 128 the lower case of a text is that of its characters. -/
lemma toList_lower (ascii : ∀ c ∈ s.toList, c.toNat < 128) :
    (lower s).toList = s.toList.map Char.toLower := by
  rw [lower, String.toList_ofList, lowerAfter_eq_map ascii]

/-- A character whose small form is ASCII has one character for it. -/
lemma length_lowerChar {c : Char} (ascii : ∀ d ∈ lowerChar c, d.toNat < 128) :
    (lowerChar c).length = 1 := by
  rw [lowerChar] at ascii ⊢
  split_ifs at ascii ⊢ with first dotted
  · rfl
  · exact absurd (ascii (Char.ofNat 0x307) (by simp)) (by decide)
  · split <;> rfl

/-- A text has as many characters as its lower case if this is below 128. -/
lemma length_lowerAfter (ascii : ∀ c ∈ lowerAfter before cs, c.toNat < 128) :
    (lowerAfter before cs).length = cs.length := by
  induction cs generalizing before with
  | nil => rfl
  | cons c cs ih =>
    rw [lowerAfter] at ascii ⊢
    obtain ⟨first, rest⟩ := List.forall_mem_append.1 ascii
    rw [List.length_append, ih rest, List.length_cons, Nat.add_comm]
    congr 1
    split_ifs at first ⊢
    · rfl
    · rfl
    · exact length_lowerChar first

/-- A text whose small form is ASCII is as long as this. -/
lemma length_lower (ascii : ∀ c ∈ (lower s).toList, c.toNat < 128) :
    (lower s).toList.length = s.length := by
  rw [lower, String.toList_ofList] at ascii ⊢
  rw [length_lowerAfter ascii, String.length_toList]

end Unicode

namespace Word

variable {c x y : Char} {cs w v p front tail : List Char} {word : String} {words : List String}

/-! ## Endings -/

/-- A text in small letters ends with a suffix if this stands at its end. -/
lemma endsLower_iff {suffix : String} : endsLower cs suffix ↔ suffix.toList <:+ cs := by
  rw [endsLower, List.isSuffixOf_iff_suffix]

/-- The last character of a text is that of its ending. -/
lemma getLast?_of_endsLower {suffix : String} (ends : endsLower cs suffix) (ne : suffix.toList ≠ []) :
    cs.getLast? = suffix.toList.getLast? := by
  obtain ⟨front, rfl⟩ := endsLower_iff.1 ends
  exact List.getLast?_append_of_ne_nil front ne

/-- Two last letters are a suffix if each of them is the same. -/
lemma suffix_pair {d : Char} : [x, d] <:+ v ++ [y, d] ↔ x = y := by
  rw [List.suffix_iff_eq_drop]
  simp

/-! ## The plural -/

/-- The plural has an `s` behind the word, or it ends in `-es` behind a letter that tells it from the
other one. -/
lemma plural_cases (ne : word.toList ≠ []) (letters : ∀ c ∈ word.toList, c.isAlpha) :
    (plural word = word ++ "s" ∧ ∀ c ∈ word.toList.getLast?, c.toLower ≠ 's') ∨
    plural word ≠ word ++ "s" ∧ ∃ front c, (plural word).toList = front ++ [c, 'e', 's'] ∧
      c.isAlpha ∧ c.toLower ∈ ['i', 's', 'x', 'z', 'h'] := by
  have lower := Unicode.toList_lower fun c mem => toNat_lt_of_isAlpha (letters c mem)
  obtain ⟨v, c, eq⟩ := (List.eq_nil_or_concat' word.toList).resolve_left ne
  have letter : c.isAlpha := letters c (by simp [eq])
  rw [eq, List.map_append] at lower
  unfold plural
  dsimp only
  rw [lower]
  split_ifs with ies es
  · refine .inr ⟨fun same => ?_, word.toList.dropLast, 'i', by simp, rfl, by simp⟩
    have length := congrArg (List.length ∘ String.toList) same
    simp [eq] at length
  · refine .inr ⟨fun same => ?_, v, c, by simp [eq], letter, ?_⟩
    · have length := congrArg (List.length ∘ String.toList) same
      simp at length
    obtain ⟨suffix, mem, ends⟩ := List.any_eq_true.1 es
    have known := List.all_eq_true.1 (by decide +kernel : ["s", "x", "z", "ch", "sh"].all fun suffix =>
      suffix.toList.getLast?.any (· ∈ ['i', 's', 'x', 'z', 'h'])) suffix mem
    obtain ⟨y, last, mem⟩ := (Option.any_eq_true _ _).1 known
    have not_nil : suffix.toList ≠ [] := fun nil => by simp [nil] at last
    rw [← getLast?_of_endsLower ends not_nil, List.map_singleton, List.getLast?_concat] at last
    cases last
    exact of_decide_eq_true mem
  · refine .inl ⟨rfl, ?_⟩
    rw [eq, List.getLast?_concat]
    rintro _ ⟨⟩ last
    refine es (List.any_eq_true.2 ⟨"s", by simp, ?_⟩)
    rw [List.map_singleton, last]
    exact endsLower_iff.2 (List.suffix_append _ _)

/-- What holds of letters and of the characters of the word holds of those of its plural. -/
lemma forall_mem_plural {P : Char → Prop} (letter : ∀ c, c.isAlpha → P c)
    (all : ∀ c ∈ word.toList, P c) : ∀ c ∈ (plural word).toList, P c := by
  have endings : ∀ ending ∈ ["ies", "es", "s"], ∀ c ∈ ending.toList, P c := fun ending mem c memC =>
    letter c (List.all_eq_true.1 (List.all_eq_true.1
      (by decide +kernel : ["ies", "es", "s"].all (·.toList.all Char.isAlpha)) ending mem) c memC)
  unfold plural
  dsimp only
  split_ifs
  all_goals rw [String.toList_append, List.forall_mem_append]
  · rw [String.toList_ofList]
    exact ⟨fun c mem => all c (List.mem_of_mem_dropLast mem), endings _ (by simp)⟩
  · exact ⟨all, endings _ (by simp)⟩
  · exact ⟨all, endings _ (by simp)⟩

/-! ## The judgement -/

section Lexicon
open Lexicon (english)

/-- A lower-case entry is listed just if it is there. -/
lemma lists_iff (lower : ∀ entry ∈ words, Unicode.lower entry = entry) :
    lists words word ↔ word ∈ words := by
  rw [lists, List.any_eq_true]
  constructor
  · rintro ⟨entry, mem, same⟩
    rwa [← beq_iff_eq.1 same, lower entry mem]
  · exact fun mem => ⟨word, mem, beq_iff_eq.2 (lower word mem)⟩

/-- A word in a list of exceptions is listed. -/
lemma lists_english {words : List String}
    (mem : words ∈ [english.uncountable, english.plurals, english.singulars]) :
    lists words word ↔ word ∈ words := by
  have lower := List.all_eq_true.1 (by decide +kernel :
    [english.uncountable, english.plurals, english.singulars].all
      (·.all fun entry => Unicode.lower entry == entry)) words mem
  exact lists_iff fun entry mem => beq_iff_eq.1 (List.all_eq_true.1 lower entry mem)

/-- No entry for a plural or an uncountable word is also one for a singular word, ends like one, or
has no more than two letters. -/
lemma no_singular (mem : word ∈ english.uncountable ++ english.plurals) :
    word ∉ english.singulars ∧ ¬endsLower word.toList "us" ∧ ¬endsLower word.toList "is" ∧
      2 < word.toList.length := by
  have known := List.all_eq_true.1 (by decide +kernel : (english.uncountable ++ english.plurals).all
    fun word => !english.singulars.contains word && !endsLower word.toList "us" &&
      !endsLower word.toList "is" && decide (2 < word.toList.length)) word mem
  simpa [and_assoc] using known

/-- A word ends with `us` if a `u` is in front of its `s`. -/
lemma endsLower_us : endsLower (v ++ [y, 's']) "us" ↔ y = 'u' :=
  endsLower_iff.trans (suffix_pair.trans eq_comm)

/-- A word ends with `is` if an `i` is in front of its `s`. -/
lemma endsLower_is : endsLower (v ++ [y, 's']) "is" ↔ y = 'i' :=
  endsLower_iff.trans (suffix_pair.trans eq_comm)

/-- A word of more than two letters has something in front of its last two. -/
lemma two_lt_length : 2 < (v ++ [y, 's']).length ↔ v ≠ [] := by
  rw [List.length_append, ← List.length_pos_iff]
  exact Nat.lt_add_left_iff_pos

/-- An entry for a plural or an uncountable word is none of those with an `s` at the end that are
judged singular. -/
lemma not_singular_of_mem (mem : word ∈ english.uncountable ++ english.plurals)
    (text : word.toList = v ++ [y, 's']) :
    ¬((y = 'u' ∨ y = 'i') ∨ v = [] ∨ word ∈ english.singulars) := by
  obtain ⟨no_singular, no_us, no_is, more⟩ := no_singular mem
  rw [text, endsLower_us] at no_us
  rw [text, endsLower_is] at no_is
  rw [text, two_lt_length] at more
  simp [no_singular, no_us, no_is, more]

/-- How a word with an `s` at its end is judged singular, unless it ends in `-ss`. -/
lemma isPlural_eq_some_false (text : (Unicode.lower word).toList = v ++ [y, 's']) (ne : y ≠ 's') :
    english.isPlural word = some false ↔
      (y = 'u' ∨ y = 'i') ∨ v = [] ∨ Unicode.lower word ∈ english.singulars := by
  have s : endsLower (v ++ [y, 's']) "s" := endsLower_iff.2 ⟨v ++ [y], by simp⟩
  have ss : ¬endsLower (v ++ [y, 's']) "ss" := fun ends =>
    ne (suffix_pair.1 (endsLower_iff.1 ends)).symm
  have ics (ends : endsLower (v ++ [y, 's']) "ics") : y = 'c' :=
    (suffix_pair.1 ((List.suffix_cons 'i' ['c', 's']).trans (endsLower_iff.1 ends))).symm
  have no_digits : ¬((v ++ [y, 's']).isEmpty || (v ++ [y, 's']).all Unicode.isDigit) := by
    have : Unicode.isDigit 's' = false := by decide
    simp [this]
  have regular : endsLower (v ++ [y, 's']) "ss" || endsLower (v ++ [y, 's']) "us" ||
      endsLower (v ++ [y, 's']) "is" ↔ y = 'u' ∨ y = 'i' := by
    rw [Bool.or_eq_true, Bool.or_eq_true, or_iff_right ss, endsLower_us, endsLower_is]
  unfold Lexicon.isPlural
  dsimp only
  rw [text, if_neg no_digits]
  simp only [lists_english, List.mem_cons, true_or, or_true, regular, s, Bool.true_and, two_lt_length]
  split_ifs with uncountable plural singular open_ending ending
  · exact iff_of_false nofun (not_singular_of_mem (List.mem_append_left _ uncountable) text)
  · exact iff_of_false nofun (not_singular_of_mem (List.mem_append_right _ plural) text)
  · exact iff_of_true rfl (.inr (.inr singular))
  · have more : v ≠ [] := by
      rintro rfl
      exact absurd (endsLower_iff.1 open_ending).length_le (by simp)
    exact iff_of_false nofun (by simp [ics open_ending, more, singular])
  · exact iff_of_true rfl (.inl ending)
  · simp only [singular, ending, false_or, or_false, Option.some.injEq, decide_eq_false_iff_not,
      not_not]

/-- A plural in `-es` is not judged singular. -/
lemma isPlural_ne_some_false (text : (Unicode.lower word).toList = v ++ [c, 'e', 's'])
    (mem : c ∈ ['i', 's', 'x', 'z', 'h']) : english.isPlural word ≠ some false := by
  rw [List.append_cons] at text
  rw [ne_eq, isPlural_eq_some_false text (by decide)]
  rintro (ending | short | singular)
  · exact absurd ending (by decide)
  · exact List.concat_ne_nil c v short
  · have known := List.all_eq_true.1 (by decide +kernel : english.singulars.all fun word =>
      ['i', 's', 'x', 'z', 'h'].all fun c => !(List.isSuffixOf [c, 'e', 's'] word.toList)) _ singular
    have other := List.all_eq_true.1 known c mem
    rw [text, ← List.append_cons, List.isSuffixOf_iff_suffix.2 (List.suffix_append v _)] at other
    cases other

/-- A word that is judged singular is made of letters. -/
lemma isAlpha_of_isPlural (form : Form w) (ascii : ∀ c ∈ w, c.toNat < 128)
    (singular : english.isPlural (String.ofList w) = some false) : ∀ c ∈ w, c.isAlpha := by
  refine form.letters_or_digits.resolve_right fun digit => ?_
  have same : (Unicode.lower (String.ofList w)).toList = w := by
    rw [Unicode.toList_lower (by rwa [String.toList_ofList]), String.toList_ofList]
    refine (List.map_congr_left fun c mem => ?_).trans (List.map_id w)
    have other := isAlpha_eq_false (digit c mem)
    exact Char.toLower_eq_of_not_isUpper fun upper => by
      rw [isAlpha_of_isUpper upper] at other
      cases other
  have all : w.all Unicode.isDigit := List.all_eq_true.2 fun c mem => by
    rw [Unicode.isDigit, if_pos (ascii c mem), ← isDecimal_eq_isDigit (ascii c mem)]
    exact digit c mem
  unfold Lexicon.isPlural at singular
  dsimp only at singular
  rw [same, all, Bool.or_true, if_pos rfl] at singular
  cases singular

/-- No entry for a singular word starts with the same letters twice. -/
lemma eq_nil_of_doubled (singular : word ∈ english.singulars) (doubled : w ++ w <+: word.toList) :
    w = [] := by
  have known := List.all_eq_true.1 (by decide +kernel : english.singulars.all fun word =>
    word.toList.inits.all fun w => w.isEmpty || !(w ++ w).isPrefixOf word.toList) word singular
  have other := List.all_eq_true.1 known w
    ((List.mem_inits _ _).2 ((List.prefix_append w w).trans doubled))
  rw [List.isPrefixOf_iff_prefix.2 doubled] at other
  simpa using other

end Lexicon

/-! ## The plural in the place of the last word -/

/-- What is left of a text when as many characters as its last word has are cut off is free of the
word, or ends with a first part of it. The latter needs separators at the end of the text. -/
lemma exists_stem (parted : Parted front (w ++ tail)) (separators : ∀ c ∈ tail, isSeparator c) :
    ∃ front' p, (front ++ w ++ tail).take ((front ++ w ++ tail).length - w.length) = front' ++ p ∧
      p <+: w ∧ Parted front' (w ++ tail) ∧ (tail = [] → p = []) := by
  have length : (front ++ w ++ tail).length - w.length = front.length + tail.length := by
    simp only [List.length_append]
    omega
  rw [length, List.append_assoc, List.take_length_add_append]
  by_cases short : tail.length ≤ w.length
  · rw [List.take_append_of_le_length short]
    exact ⟨front, _, rfl, List.take_prefix _ w, parted, fun nil => by rw [nil]; rfl⟩
  · rw [List.take_append, List.take_of_length_le (by omega : w.length ≤ tail.length)]
    refine ⟨front ++ (w ++ tail.take (tail.length - w.length)), [], by simp, List.nil_prefix, ?_,
      fun _ => rfl⟩
    have ne : tail.take (tail.length - w.length) ≠ [] := List.ne_nil_of_length_pos (by
      rw [List.length_take]
      omega)
    rw [parted_append_left (List.append_ne_nil_of_right_ne_nil w ne), parted_append_left ne]
    exact parted_of_forall fun c mem =>
      endsAfter_of_isSeparator (separators c (List.mem_of_mem_take mem))

/-- No capital stands in front of capitals that are a word. -/
lemma isUpper_eq_false_of_capitals (parted : Parted front (w ++ tail))
    (separators : ∀ c ∈ tail, isSeparator c) (ne : w ≠ []) (upper : ∀ c ∈ w, c.isUpper) :
    ∀ x ∈ front.getLast?, x.isUpper = false := by
  intro x mem
  refine Bool.eq_false_iff.2 fun capital => ?_
  obtain ⟨c, w, rfl⟩ := List.exists_cons_of_ne_nil ne
  have letter := isAlpha_of_isUpper (upper c List.mem_cons_self)
  obtain ⟨-, d, next, lower⟩ := ((parted x mem).capitals capital).head_eq letter
  rcases List.mem_append.1 (List.mem_of_mem_head? next) with mem | mem
  · have upper := upper d (List.mem_cons_of_mem c mem)
    rw [isUpper_eq_false_of_isLower lower] at upper
    cases upper
  · have separator := separators d mem
    simp [isSeparator, isAlpha_of_isLower lower] at separator

/-- No letter stands in front of small letters that are a word. -/
lemma isAlpha_eq_false_of_small (parted : Parted front (w ++ tail)) (ne : w ≠ [])
    (lower : ∀ c ∈ w, c.isLower) : ∀ x ∈ front.getLast?, x.isAlpha = false := by
  intro x mem
  obtain ⟨c, w, rfl⟩ := List.exists_cons_of_ne_nil ne
  have first : c.isLower := lower c List.mem_cons_self
  rw [Char.isAlpha, Bool.or_eq_false_iff, Bool.eq_false_iff, Bool.eq_false_iff]
  refine ⟨fun capital => ?_, fun small => ?_⟩
  · have upper := (((parted x mem).capitals capital).head_eq (isAlpha_of_isLower first)).1
    rw [isUpper_eq_false_of_isLower first] at upper
    cases upper
  · have ends := (parted x mem).small small c rfl
    rw [first] at ends
    cases ends

/-- A word with an `s` behind what is left of a text without it is the last word, maybe with the
first part of the word that was left in front of it. -/
lemma exists_getLast?_append_s (form : Form w) (letters : ∀ c ∈ w, c.isAlpha)
    (last : ∀ c ∈ w.getLast?, c.toLower ≠ 's') (parted : Parted front (w ++ tail))
    (separators : ∀ c ∈ tail, isSeparator c) (start : p <+: w) :
    ∃ q, q <+: w ∧ (p = [] → q = []) ∧
      (splitChars (front ++ p ++ (w ++ ['s']))).getLast? = some (q ++ (w ++ ['s'])) := by
  have lower_s : ∀ c ∈ ['s'], c.isLower := List.forall_mem_singleton.2 rfl
  cases form with
  | capitals ne upper =>
    refine ⟨p, start, id, ?_⟩
    rw [List.append_assoc, ← List.append_assoc p]
    exact getLast?_splitChars_capitals (List.append_ne_nil_of_right_ne_nil p ne)
      (List.forall_mem_append.2 ⟨fun c mem => upper c (start.subset mem), upper⟩)
      (isUpper_eq_false_of_capitals parted separators ne upper)
  | acronyms _ _ => exact absurd rfl (last 's' List.getLast?_concat)
  | small ne lower =>
    refine ⟨p, start, id, ?_⟩
    rw [List.append_assoc]
    exact getLast?_splitChars_small (List.forall_mem_append.2
      ⟨fun c mem => lower c (start.subset mem), List.forall_mem_append.2 ⟨lower, lower_s⟩⟩)
      (by simp) (isAlpha_eq_false_of_small parted ne lower)
  | @capitalized c v upper ne lower =>
    have two : 2 ≤ (v ++ ['s']).length := by
      rw [List.length_append]
      exact Nat.succ_le_succ (List.length_pos_iff.2 ne)
    exact ⟨[], List.nil_prefix, fun _ => rfl,
      getLast?_splitChars_capitalized (List.forall_mem_append.2 ⟨lower, lower_s⟩) two upper⟩
  | digits ne digit =>
    obtain ⟨c, w, rfl⟩ := List.exists_cons_of_ne_nil ne
    have letter := letters c List.mem_cons_self
    rw [isAlpha_eq_false (digit c List.mem_cons_self)] at letter
    cases letter

end Word

end SchemaLint

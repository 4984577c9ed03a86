import Mathlib
import SchemaLint.Proofs.Word.Split
import SchemaLint.Word.Casing

/-!
# Letter case of names

Joined words are split in other places than before: single letters become an acronym, and a first
letter that was lowered stands apart. PascalCase can be written without splitting, though: capitals
come in front, behind digits and behind underscores, and all else stays (`pascalChars_eq`). So the
conversions agree with one another, keep the letters and digits of a name, and give the shapes that
they are named for: `conversions_agree`.
-/

namespace SchemaLint.Word

variable {c x : Char} {w cs rest : List Char} {ws : List (List Char)} {high low : Bool}

/-! ## Characters -/

/-- An underscore is no letter. -/
lemma ne_underscore_of_isAlpha (letter : c.isAlpha) : c ≠ '_' := by
  rintro rfl
  cases letter

/-- A letter is no digit. -/
lemma isDigit_eq_false_of_isAlpha (letter : c.isAlpha) : c.isDigit = false := by
  rw [← isDecimal_eq_isDigit (toNat_lt_of_isAlpha letter), isDecimal_eq_false letter]

/-- What is no letter has no capital. -/
lemma toUpper_of_isAlpha_eq_false (other : c.isAlpha = false) : c.toUpper = c := by
  rw [Char.isAlpha, Bool.or_eq_false_iff] at other
  exact Char.toUpper_eq_of_not_isLower (by simp [other.2])

/-- What is no letter has no small form. -/
lemma toLower_of_isAlpha_eq_false (other : c.isAlpha = false) : c.toLower = c := by
  rw [Char.isAlpha, Bool.or_eq_false_iff] at other
  exact Char.toLower_eq_of_not_isUpper (by simp [other.1])

/-- The capital of a character is a digit if the character is. -/
lemma isDigit_toUpper (c : Char) : c.toUpper.isDigit = c.isDigit := by
  cases letter : c.isAlpha with
  | false => rw [toUpper_of_isAlpha_eq_false letter]
  | true =>
    have capital : c.toUpper.isAlpha := by rw [Char.isAlpha_toUpper_eq_isAlpha, letter]
    rw [isDigit_eq_false_of_isAlpha capital, isDigit_eq_false_of_isAlpha letter]

/-- The small form of a character is a digit if the character is. -/
lemma isDigit_toLower (c : Char) : c.toLower.isDigit = c.isDigit := by
  rw [← isDigit_toUpper, Char.toUpper_toLower_eq_toUpper, isDigit_toUpper]

/-- No capital is an underscore, but that of one. -/
lemma toUpper_ne_underscore (ne : c ≠ '_') : c.toUpper ≠ '_' := by
  cases letter : c.isAlpha with
  | false => rwa [toUpper_of_isAlpha_eq_false letter]
  | true =>
    refine ne_underscore_of_isAlpha ?_
    rw [Char.isAlpha_toUpper_eq_isAlpha, letter]

/-- No small form is an underscore, but that of one. -/
lemma toLower_ne_underscore (ne : c ≠ '_') : c.toLower ≠ '_' := by
  cases letter : c.isAlpha with
  | false => rwa [toLower_of_isAlpha_eq_false letter]
  | true =>
    refine ne_underscore_of_isAlpha ?_
    rw [Char.isAlpha_toLower_eq_isAlpha, letter]

/-- The capital of a letter or digit is one. -/
lemma isAlphanum_toUpper (c : Char) : c.toUpper.isAlphanum = c.isAlphanum := by
  rw [Char.isAlphanum, Char.isAlphanum, Char.isAlpha_toUpper_eq_isAlpha, isDigit_toUpper]

/-! ## Humps -/

/-- The text without its underscores, with capitals in front if `high`, behind digits and behind
underscores. -/
def humps (high : Bool) : List Char → List Char
  | [] => []
  | c :: cs =>
    if c = '_' then humps true cs
    else (if high then c.toUpper else c) :: humps c.isDigit cs

/-- An underscore is left out, and a capital comes behind it. -/
lemma humps_underscore : humps high ('_' :: cs) = humps true cs := if_pos rfl

/-- Any other character stays, as a capital if one is due, and a capital comes behind a digit. -/
lemma humps_cons (ne : c ≠ '_') :
    humps high (c :: cs) = (if high then c.toUpper else c) :: humps c.isDigit cs := if_neg ne

/-- Letters stay as they are behind a letter. -/
lemma humps_letters (letters : ∀ c ∈ w, c.isAlpha) :
    humps false (w ++ cs) = w ++ humps false cs := by
  induction w with
  | nil => rfl
  | cons c w ih =>
    rw [List.forall_mem_cons] at letters
    rw [List.cons_append, humps_cons (ne_underscore_of_isAlpha letters.1),
      isDigit_eq_false_of_isAlpha letters.1, ih letters.2]
    rfl

/-- Digits stay, and a capital comes behind them. -/
lemma humps_digits (digits : ∀ c ∈ w, c.isAlpha = false ∧ c.isDigit) :
    humps true (w ++ cs) = w ++ humps true cs := by
  induction w with
  | nil => rfl
  | cons c w ih =>
    obtain ⟨⟨other, digit⟩, digits⟩ := List.forall_mem_cons.1 digits
    have ne : c ≠ '_' := by
      rintro rfl
      cases digit
    rw [List.cons_append, humps_cons ne, if_pos rfl, toUpper_of_isAlpha_eq_false other, digit,
      ih digits, List.cons_append]

/-- With its humps, a text is as it has to be. -/
lemma humps_humps (implies : low → high) : humps low (humps high cs) = humps high cs := by
  induction cs generalizing high low with
  | nil => rfl
  | cons c cs ih =>
    by_cases eq : c = '_'
    · rw [eq, humps_underscore, ih fun _ => rfl]
    · rw [humps_cons eq]
      cases high with
      | true =>
        rw [if_pos rfl, humps_cons (toUpper_ne_underscore eq), Char.toUpper_toUpper_eq_toUpper,
          ite_self, isDigit_toUpper, ih id]
      | false =>
        have not_low : low = false := Bool.eq_false_iff.2 fun low => Bool.false_ne_true (implies low)
        rw [if_neg Bool.false_ne_true, humps_cons eq, not_low, if_neg Bool.false_ne_true, ih id]

/-- It does not matter how the first letter was written if it becomes a capital. -/
lemma humps_lowerFirst : humps true (lowerFirst cs) = humps true cs := by
  cases cs with
  | nil => rfl
  | cons c cs =>
    rw [lowerFirst]
    by_cases eq : c = '_'
    · rw [eq]
      rfl
    · rw [humps_cons (toLower_ne_underscore eq), humps_cons eq, if_pos rfl, if_pos rfl,
        Char.toUpper_toLower_eq_toUpper, isDigit_toLower]

/-! ## Words -/

/-- Behind a letter no word starts with a small letter. -/
lemma EndsAfter.isLower_eq_false (ends : EndsAfter x cs) (letter : x.isAlpha) :
    ∀ d ∈ cs.head?, d.isLower = false := by
  rw [Char.isAlpha, Bool.or_eq_true] at letter
  rcases letter with upper | lower
  · cases ends.capitals upper with
    | nil => simp
    | other other => simpa using (Bool.or_eq_false_iff.1 other).2
    | word upper _ _ => simpa using isLower_eq_false_of_isUpper upper
  · exact ends.small lower

/-- Words with a capital in front are the text with its humps. -/
lemma Splits.flatMap_upperFirst (splits : Splits ws cs) (chars : ∀ c ∈ cs, Sdl.isNameContinue c)
    (start : high ∨ ∀ c ∈ cs.head?, c.isLower = false) : ws.flatMap upperFirst = humps high cs := by
  induction splits generalizing high with
  | nil => rfl
  | skip separator _ ih =>
    rw [List.forall_mem_cons] at chars
    rw [(isSeparator_iff chars.1).1 separator, humps_underscore]
    exact ih chars.2 (.inl rfl)
  | @word w ws rest form parted _ ih =>
    obtain ⟨x, last, ends⟩ := parted.exists_last form.ne_nil
    obtain ⟨c, w, rfl⟩ := List.exists_cons_of_ne_nil form.ne_nil
    have first : (if high then c.toUpper else c) = c.toUpper := by
      rcases start with rfl | not_lower
      · exact if_pos rfl
      · have same : c.toUpper = c := Char.toUpper_eq_of_not_isLower (by simp [not_lower c rfl])
        rw [same, ite_self]
    rw [List.forall_mem_append] at chars
    rw [List.flatMap_cons, upperFirst, List.cons_append, List.cons_append]
    rcases form.letters_or_digits with letters | digits
    · obtain ⟨letter, letters'⟩ := List.forall_mem_cons.1 letters
      rw [humps_cons (ne_underscore_of_isAlpha letter), first, isDigit_eq_false_of_isAlpha letter,
        humps_letters letters', ih chars.2 (.inr (ends.isLower_eq_false (letters x last)))]
    · have digits : ∀ d ∈ c :: w, d.isAlpha = false ∧ d.isDigit := by
        intro d mem
        have ascii := toNat_lt_of_isNameContinue (chars.1 d mem)
        exact ⟨isAlpha_eq_false (digits d mem), isDecimal_eq_isDigit ascii ▸ digits d mem⟩
      obtain ⟨digit, digits⟩ := List.forall_mem_cons.1 digits
      have ne : c ≠ '_' := by
        rintro rfl
        cases digit.2
      rw [humps_cons ne, first, digit.2, humps_digits digits, ih chars.2 (.inl rfl)]

/-- PascalCase is written without splitting. -/
lemma pascalChars_eq (chars : ∀ c ∈ cs, Sdl.isNameContinue c) : pascalChars cs = humps true cs :=
  (splits_splitChars cs).flatMap_upperFirst chars (.inl rfl)

/-! ## What is spelled -/

/-- The characters of a text other than underscores, letter case aside. -/
def spelling (cs : List Char) : List Char := (cs.filter (· ≠ '_')).map Char.toLower

/-- The letters and digits of a text are those of its parts. -/
lemma spelling_append (cs rest : List Char) :
    spelling (cs ++ rest) = spelling cs ++ spelling rest := by
  rw [spelling, List.filter_append, List.map_append, spelling, spelling]

/-- An underscore is no part of the spelling. -/
lemma spelling_underscore : spelling ('_' :: cs) = spelling cs := rfl

/-- Any other character counts in its small form. -/
lemma spelling_cons (ne : c ≠ '_') : spelling (c :: cs) = c.toLower :: spelling cs := by
  rw [spelling, List.filter_cons_of_pos (by simpa using ne), List.map_cons, spelling]

/-- Capitals do not change the spelling. -/
lemma spelling_humps : spelling (humps high cs) = spelling cs := by
  induction cs generalizing high with
  | nil => rfl
  | cons c cs ih =>
    by_cases eq : c = '_'
    · rw [eq, humps_underscore, spelling_underscore, ih]
    · rw [humps_cons eq, spelling_cons eq]
      cases high with
      | true =>
        rw [if_pos rfl, spelling_cons (toUpper_ne_underscore eq), Char.toLower_toUpper_eq_toLower, ih]
      | false => rw [if_neg Bool.false_ne_true, spelling_cons eq, ih]

/-- A small first letter does not change the spelling. -/
lemma spelling_lowerFirst : spelling (lowerFirst cs) = spelling cs := by
  cases cs with
  | nil => rfl
  | cons c cs =>
    rw [lowerFirst]
    by_cases eq : c = '_'
    · rw [eq]
      rfl
    · rw [spelling_cons (toLower_ne_underscore eq), spelling_cons eq,
        Char.toLower_toLower_eq_toLower]

/-- A text in capitals is spelled as the text. -/
lemma spelling_map_toUpper : spelling (cs.map Char.toUpper) = spelling cs := by
  induction cs with
  | nil => rfl
  | cons c cs ih =>
    rw [List.map_cons]
    by_cases eq : c = '_'
    · rw [eq]
      exact ih
    · rw [spelling_cons (toUpper_ne_underscore eq), spelling_cons eq,
        Char.toLower_toUpper_eq_toLower, ih]

/-- Words joined by underscores are spelled as the words. -/
lemma spelling_intercalate : spelling (List.intercalate ['_'] ws) = spelling ws.flatten := by
  induction ws with
  | nil => rfl
  | cons w ws ih =>
    cases ws with
    | nil => simp [List.intercalate]
    | cons v ws =>
      rw [List.intercalate_cons_cons, List.append_assoc, spelling_append, List.singleton_append,
        spelling_underscore, ih, ← spelling_append]
      rfl

/-- Words in capitals are spelled as the words. -/
lemma spelling_flatten_map_toUpper :
    spelling (ws.map (·.map Char.toUpper)).flatten = spelling ws.flatten := by
  rw [← List.map_flatten, spelling_map_toUpper]

/-- The words of a name spell the name. -/
lemma spelling_splitChars (chars : ∀ c ∈ cs, Sdl.isNameContinue c) :
    spelling (splitChars cs).flatten = spelling cs := by
  rw [(splits_splitChars cs).flatten_eq_filter chars, spelling, List.filter_filter, spelling]
  simp only [Bool.and_self]

/-- A name in SCREAMING_CASE is spelled as the name. -/
lemma spelling_screamingChars (chars : ∀ c ∈ cs, Sdl.isNameContinue c) :
    spelling (screamingChars cs) = spelling cs := by
  rw [screamingChars, spelling_intercalate, spelling_flatten_map_toUpper, spelling_splitChars chars]

/-! ## Words in capitals -/

/-- A word in capitals is one of capitals or of digits. -/
lemma Form.map_toUpper (form : Form w) :
    (∀ c ∈ w.map Char.toUpper, c.isUpper) ∨ ∀ c ∈ w.map Char.toUpper, Unicode.isDecimal c := by
  rw [List.forall_mem_map, List.forall_mem_map]
  refine form.letters_or_digits.imp (fun letters c mem => ?_) fun digits c mem => ?_
  · rw [Char.isUpper_toUpper_eq_isAlpha, letters c mem]
  · rw [toUpper_of_isAlpha_eq_false (isAlpha_eq_false (digits c mem)), digits c mem]

/-- A word of capitals or of digits ends in front of an underscore. -/
lemma parted_underscore (w cs : List Char) (homogeneous : (∀ c ∈ w, c.isUpper) ∨
    ∀ c ∈ w, Unicode.isDecimal c) : Parted w ('_' :: cs) := by
  refine parted_of_forall fun x mem => ?_
  rcases homogeneous with upper | digit
  · exact (endsAfter_of_isUpper (upper x mem)).2 (.other rfl)
  · exact (endsAfter_of_isDecimal (digit x mem)).2 (by simpa using by rfl)

/-- Words of capitals and words of digits are split at the underscores between them. -/
lemma splits_intercalate (ne : ∀ w ∈ ws, w ≠ [])
    (homogeneous : ∀ w ∈ ws, (∀ c ∈ w, c.isUpper) ∨ ∀ c ∈ w, Unicode.isDecimal c) :
    Splits ws (List.intercalate ['_'] ws) := by
  induction ws with
  | nil => exact .nil
  | cons w ws ih =>
    obtain ⟨not_nil, ne⟩ := List.forall_mem_cons.1 ne
    obtain ⟨first, homogeneous⟩ := List.forall_mem_cons.1 homogeneous
    have form : Form w := by
      rcases first with upper | digit
      · exact .capitals not_nil upper
      · exact .digits not_nil digit
    cases ws with
    | nil =>
      rw [List.intercalate_singleton, ← form.splitChars_eq]
      exact splits_splitChars w
    | cons v ws =>
      rw [List.intercalate_cons_cons, List.append_assoc]
      exact .word form (parted_underscore w _ first) (.skip rfl (ih ne homogeneous))

/-- The words of a text in capitals are the words of the text, in capitals. -/
lemma splitChars_screamingChars (cs : List Char) :
    splitChars (screamingChars cs) = (splitChars cs).map (·.map Char.toUpper) := by
  refine (splits_intercalate ?_ ?_).splitChars_eq
  · rw [List.forall_mem_map]
    intro w mem
    simpa using ((splits_splitChars cs).form w mem).ne_nil
  · rw [List.forall_mem_map]
    exact fun w mem => ((splits_splitChars cs).form w mem).map_toUpper

/-- What is in SCREAMING_CASE stays as it is. -/
lemma screamingChars_screamingChars (cs : List Char) :
    screamingChars (screamingChars cs) = screamingChars cs := by
  rw [screamingChars, splitChars_screamingChars, List.map_map, screamingChars]
  simp only [Function.comp_def, List.map_map, Char.toUpper_toUpper_eq_toUpper]

/-! ## Characters of the conversions -/

/-- There are only letters and digits in PascalCase. -/
lemma mem_humps (chars : ∀ c ∈ cs, Sdl.isNameContinue c) : ∀ c ∈ humps high cs, c.isAlphanum := by
  induction cs generalizing high with
  | nil => exact List.forall_mem_nil _
  | cons c cs ih =>
    obtain ⟨char, chars⟩ := List.forall_mem_cons.1 chars
    by_cases eq : c = '_'
    · rw [eq, humps_underscore]
      exact ih chars
    · have alphanumeric : c.isAlphanum := by simpa [Sdl.isNameContinue, eq] using char
      rw [humps_cons eq, List.forall_mem_cons]
      refine ⟨?_, ih chars⟩
      split
      · rw [isAlphanum_toUpper, alphanumeric]
      · exact alphanumeric

/-- A small first letter brings in no other characters. -/
lemma mem_lowerFirst (chars : ∀ c ∈ cs, c.isAlphanum) : ∀ c ∈ lowerFirst cs, c.isAlphanum := by
  cases cs with
  | nil => exact chars
  | cons c cs =>
    obtain ⟨char, chars⟩ := List.forall_mem_cons.1 chars
    refine List.forall_mem_cons.2 ⟨?_, chars⟩
    rw [← isAlphanum_toUpper, Char.toUpper_toLower_eq_toUpper, isAlphanum_toUpper, char]

/-- Words joined by underscores have the characters of the words, and underscores. -/
lemma mem_intercalate {p : Char → Prop} (separator : p '_') (words : ∀ w ∈ ws, ∀ c ∈ w, p c) :
    ∀ c ∈ List.intercalate ['_'] ws, p c := by
  induction ws with
  | nil => exact List.forall_mem_nil _
  | cons w ws ih =>
    obtain ⟨first, words⟩ := List.forall_mem_cons.1 words
    cases ws with
    | nil =>
      rw [List.intercalate_singleton]
      exact first
    | cons v ws =>
      rw [List.intercalate_cons_cons, List.forall_mem_append, List.forall_mem_append,
        List.forall_mem_singleton]
      exact ⟨⟨first, separator⟩, ih words⟩

/-- Text in capitals holds capitals, digits and underscores. -/
lemma mem_screamingChars (chars : ∀ c ∈ cs, Sdl.isNameContinue c) :
    ∀ c ∈ screamingChars cs, (c.isUpper || c.isDigit || c == '_') = true := by
  have splits := splits_splitChars cs
  refine mem_intercalate rfl
    (List.forall_mem_map.2 fun w mem => List.forall_mem_map.2 fun c inside => ?_)
  have kept : c ∈ cs.filter (· ≠ '_') := by
    rw [← splits.flatten_eq_filter chars]
    exact List.mem_flatten_of_mem mem inside
  obtain ⟨inside, ne⟩ := List.mem_filter.1 kept
  have char := chars c inside
  rw [Sdl.isNameContinue, Char.isAlphanum] at char
  rw [Char.isUpper_toUpper_eq_isAlpha, isDigit_toUpper]
  simp_all

/-! ## Shapes -/

/-- The first letter or digit of the text is a letter. -/
def startsWithLetter (cs : List Char) : Bool := (cs.find? Char.isAlphanum).any Char.isAlpha

/-- A text of the right characters has the shape if its first one does. -/
lemma hasShape_eq_any {first others : Char → Bool} (all : ∀ c ∈ cs, others c) :
    hasShape first others cs = cs.head?.any first := by
  cases cs with
  | nil => rfl
  | cons c cs =>
    have rest : cs.all others := List.all_eq_true.2 (List.forall_mem_cons.1 all).2
    rw [hasShape, rest, Bool.and_true]
    rfl

/-- PascalCase starts with the capital of the first character that is no underscore. -/
lemma head?_humps : (humps true cs).head? = (cs.find? (· ≠ '_')).map Char.toUpper := by
  induction cs with
  | nil => rfl
  | cons c cs ih =>
    by_cases eq : c = '_'
    · rw [eq, humps_underscore, ih, List.find?_cons_of_neg (by simp)]
    · rw [humps_cons eq, List.find?_cons_of_pos (by simpa using eq)]
      rfl

/-- The first character is made small. -/
lemma head?_lowerFirst : (lowerFirst cs).head? = cs.head?.map Char.toLower := by
  cases cs <;> rfl

/-- Joined words start as their first word does. -/
lemma head?_intercalate (ne : ∀ w ∈ ws, w ≠ []) :
    (List.intercalate ['_'] ws).head? = ws.flatten.head? := by
  cases ws with
  | nil => rfl
  | cons w ws =>
    have not_nil : w ≠ [] := ne w List.mem_cons_self
    rw [List.flatten_cons, List.head?_append_of_ne_nil _ not_nil]
    cases ws with
    | nil => rw [List.intercalate_singleton]
    | cons v ws =>
      rw [List.intercalate_cons_cons, List.append_assoc, List.head?_append_of_ne_nil _ not_nil]

/-- SCREAMING_CASE starts with the capital of the first character that is no underscore. -/
lemma head?_screamingChars (chars : ∀ c ∈ cs, Sdl.isNameContinue c) :
    (screamingChars cs).head? = (cs.find? (· ≠ '_')).map Char.toUpper := by
  have splits := splits_splitChars cs
  rw [screamingChars, head?_intercalate, ← List.map_flatten, splits.flatten_eq_filter chars,
    List.head?_map, List.head?_filter]
  rw [List.forall_mem_map]
  intro w mem
  simpa using (splits.form w mem).ne_nil

/-- In a name, what is no underscore is a letter or digit. -/
lemma find?_ne_underscore (chars : ∀ c ∈ cs, Sdl.isNameContinue c) :
    cs.find? (· ≠ '_') = cs.find? Char.isAlphanum := by
  rw [← List.head?_filter, ← List.head?_filter]
  congr 1
  refine List.filter_congr fun c mem => ?_
  have char := chars c mem
  rw [← Bool.not_not (b := c.isAlphanum), ← isSeparator_eq char, Bool.eq_iff_iff, Bool.not_eq_true',
    ← Bool.not_eq_true, isSeparator_iff char, decide_eq_true_iff]

section
variable (chars : ∀ c ∈ cs, Sdl.isNameContinue c)
include chars

/-- PascalCase has its shape if the first letter or digit of the name is a letter. -/
lemma hasShape_pascalChars :
    hasShape Char.isUpper Char.isAlphanum (pascalChars cs) = startsWithLetter cs := by
  rw [pascalChars_eq chars, hasShape_eq_any (mem_humps chars), head?_humps, find?_ne_underscore chars,
    Option.any_map, startsWithLetter]
  simp only [Char.isUpper_toUpper_eq_isAlpha]

/-- So has camelCase. -/
lemma hasShape_camelChars :
    hasShape Char.isLower Char.isAlphanum (camelChars cs) = startsWithLetter cs := by
  rw [camelChars, pascalChars_eq chars, hasShape_eq_any (mem_lowerFirst (mem_humps chars)),
    head?_lowerFirst, head?_humps, find?_ne_underscore chars, Option.map_map, Option.any_map,
    startsWithLetter]
  simp only [Function.comp_def, Char.toLower_toUpper_eq_toLower, Char.isLower_toLower_eq_isAlpha]

/-- So has SCREAMING_CASE. -/
lemma hasShape_screamingChars :
    hasShape Char.isUpper (fun c => c.isUpper || c.isDigit || c == '_') (screamingChars cs) =
      startsWithLetter cs := by
  rw [hasShape_eq_any (mem_screamingChars chars), head?_screamingChars chars,
    find?_ne_underscore chars, Option.any_map, startsWithLetter]
  simp only [Char.isUpper_toUpper_eq_isAlpha]

end

/-! ## Laws of the conversions -/

/-- Letters and digits may stand in names. -/
lemma isNameContinue_of_isAlphanum (alphanumeric : c.isAlphanum) : Sdl.isNameContinue c := by
  rw [Sdl.isNameContinue, alphanumeric, Bool.true_or]

section
variable (chars : ∀ c ∈ cs, Sdl.isNameContinue c)
include chars

/-- There are only letters and digits in the PascalCase of a name. -/
lemma mem_pascalChars : ∀ c ∈ pascalChars cs, c.isAlphanum := by
  rw [pascalChars_eq chars]
  exact mem_humps chars

/-- There are only letters and digits in the camelCase of a name. -/
lemma mem_camelChars : ∀ c ∈ camelChars cs, c.isAlphanum := mem_lowerFirst (mem_pascalChars chars)

/-- What is in PascalCase stays as it is. -/
lemma pascalChars_pascalChars : pascalChars (pascalChars cs) = pascalChars cs := by
  have again : ∀ c ∈ pascalChars cs, Sdl.isNameContinue c := fun c mem =>
    isNameContinue_of_isAlphanum (mem_pascalChars chars c mem)
  rw [pascalChars_eq again, pascalChars_eq chars, humps_humps id]

/-- PascalCase can be made of camelCase. -/
lemma pascalChars_camelChars : pascalChars (camelChars cs) = pascalChars cs := by
  have again : ∀ c ∈ camelChars cs, Sdl.isNameContinue c := fun c mem =>
    isNameContinue_of_isAlphanum (mem_camelChars chars c mem)
  rw [pascalChars_eq again, camelChars, humps_lowerFirst, pascalChars_eq chars, humps_humps id]

/-- What is in camelCase stays as it is. -/
lemma camelChars_camelChars : camelChars (camelChars cs) = camelChars cs := by
  rw [camelChars, pascalChars_camelChars chars, camelChars]

/-- CamelCase can be made of PascalCase. -/
lemma camelChars_pascalChars : camelChars (pascalChars cs) = camelChars cs := by
  rw [camelChars, pascalChars_pascalChars chars, camelChars]

/-- A name in PascalCase is spelled as the name. -/
lemma spelling_pascalChars : spelling (pascalChars cs) = spelling cs := by
  rw [pascalChars_eq chars, spelling_humps]

/-- A name in camelCase is spelled as the name. -/
lemma spelling_camelChars : spelling (camelChars cs) = spelling cs := by
  rw [camelChars, spelling_lowerFirst, spelling_pascalChars chars]

end

/-- Each conversion leaves what it made as it is, and camelCase and PascalCase can be made of each
other. All three keep the letters and digits of a name, letter case aside. They give the shapes that
they are named for just if the first letter or digit of the name is a letter. -/
theorem conversions_agree (name : String) (chars : ∀ c ∈ name.toList, Sdl.isNameContinue c) :
    (toPascal (toPascal name) = toPascal name ∧ toCamel (toCamel name) = toCamel name ∧
      toScreaming (toScreaming name) = toScreaming name ∧
      toPascal (toCamel name) = toPascal name ∧ toCamel (toPascal name) = toCamel name) ∧
    (spelling (toPascal name).toList = spelling name.toList ∧
      spelling (toCamel name).toList = spelling name.toList ∧
      spelling (toScreaming name).toList = spelling name.toList) ∧
    isPascal (toPascal name) = startsWithLetter name.toList ∧
    isCamel (toCamel name) = startsWithLetter name.toList ∧
    isScreaming (toScreaming name) = startsWithLetter name.toList := by
  simp only [toPascal, toCamel, toScreaming, isPascal, isCamel, isScreaming, String.toList_ofList]
  refine ⟨⟨?_, ?_, ?_, ?_, ?_⟩, ⟨?_, ?_, ?_⟩, ?_, ?_, ?_⟩
  · rw [pascalChars_pascalChars chars]
  · rw [camelChars_camelChars chars]
  · rw [screamingChars_screamingChars]
  · rw [pascalChars_camelChars chars]
  · rw [camelChars_pascalChars chars]
  · exact spelling_pascalChars chars
  · exact spelling_camelChars chars
  · exact spelling_screamingChars chars
  · exact hasShape_pascalChars chars
  · exact hasShape_camelChars chars
  · exact hasShape_screamingChars chars

/-- Single letters become one acronym, and a first letter that is lowered leaves it again. -/
theorem conversions_agree_initials :
    let name := "_a_bCs2d"
    (∀ c ∈ name.toList, Sdl.isNameContinue c) ∧
    (toPascal name = "ABCs2D" ∧ toCamel name = "aBCs2D" ∧ toScreaming name = "A_B_CS_2_D") ∧
    (toPascal (toPascal name) = toPascal name ∧ toCamel (toCamel name) = toCamel name ∧
      toScreaming (toScreaming name) = toScreaming name ∧
      toPascal (toCamel name) = toPascal name ∧ toCamel (toPascal name) = toCamel name) ∧
    (spelling (toPascal name).toList = spelling name.toList ∧
      spelling (toCamel name).toList = spelling name.toList ∧
      spelling (toScreaming name).toList = spelling name.toList) ∧
    isPascal (toPascal name) = startsWithLetter name.toList ∧
    isCamel (toCamel name) = startsWithLetter name.toList ∧
    isScreaming (toScreaming name) = startsWithLetter name.toList := by
  intro name
  have chars : ∀ c ∈ name.toList, Sdl.isNameContinue c := List.all_eq_true.1 (by decide +kernel)
  exact ⟨chars, ⟨by cbv, by cbv, by cbv⟩, conversions_agree name chars⟩

end SchemaLint.Word

import Mathlib
import SchemaLint.Proofs.Word.Split

/-!
# The last word of a text

Where the last word of a text stands (`Splits.exists_last`), and what it is if the text is known from
its end: small letters with the capital in front of them, or capitals with a plural `s`.
-/

namespace SchemaLint.Word

open Text (exists_run_back)

variable {c d x : Char} {w cs front tail run : List Char} {ws : List (List Char)}

/-! ## From the words to the text -/

/-- The last word of a text stands in front of separators, and no word goes over its front. -/
lemma Splits.exists_last (splits : Splits ws cs) (last : ws.getLast? = some w) :
    ∃ front tail, cs = front ++ w ++ tail ∧ Form w ∧ Parted front (w ++ tail) ∧
      ∀ c ∈ tail, isSeparator c := by
  induction splits with
  | nil => cases last
  | @skip c ws cs separator _ ih =>
    obtain ⟨front, tail, text, form, parted, separators⟩ := ih last
    refine ⟨c :: front, tail, by rw [text]; rfl, form, ?_, separators⟩
    cases front with
    | nil => exact parted_of_forall (List.forall_mem_singleton.2 (endsAfter_of_isSeparator separator))
    | cons d front => exact (parted_append_left (a := [c]) (List.cons_ne_nil d front)).2 parted
  | @word v ws rest form ends splits ih =>
    cases ws with
    | nil =>
      cases last
      exact ⟨[], rest, rfl, form, parted_nil_left, splits.eq_nil_iff.1 rfl⟩
    | cons u us =>
      rw [List.getLast?_cons_cons] at last
      obtain ⟨front, tail, text, form', parted, separators⟩ := ih last
      refine ⟨v ++ front, tail, by rw [text, List.append_assoc, List.append_assoc,
        List.append_assoc], form', ?_, separators⟩
      cases front with
      | nil => rwa [List.append_nil, ← List.nil_append (w ++ tail), ← List.append_assoc, ← text]
      | cons d front => exact (parted_append_left (List.cons_ne_nil d front)).2 parted

/-- The first word of a text stands behind separators, and the other words are those of the text
behind it. -/
lemma Splits.exists_first (splits : Splits (w :: ws) cs) :
    ∃ gap rest, cs = gap ++ w ++ rest ∧ (∀ c ∈ gap, isSeparator c) ∧ Splits ws rest := by
  generalize eq : w :: ws = us at splits
  induction splits with
  | nil => cases eq
  | @skip c _ _ separator _ ih =>
    obtain ⟨gap, rest, text, separators, behind⟩ := ih eq
    exact ⟨c :: gap, rest, by rw [text]; rfl, List.forall_mem_cons.2 ⟨separator, separators⟩, behind⟩
  | @word _ _ rest _ _ splits _ =>
    cases eq
    exact ⟨[], rest, rfl, List.forall_mem_nil _, splits⟩

/-- Where the first word of a name stands: behind separators, and in front of what the other words are
those of. -/
lemma exists_of_split_eq_cons {name word : String} {words : List String}
    (parts : split name = word :: words) :
    ∃ gap rest, name.toList = gap ++ word.toList ++ rest ∧ (∀ c ∈ gap, isSeparator c) ∧
      Form word.toList ∧ split (String.ofList rest) = words := by
  obtain ⟨w, ws, words_eq, rfl, rfl⟩ := List.map_eq_cons_iff.1 parts
  have splits := splits_splitChars name.toList
  rw [words_eq] at splits
  obtain ⟨gap, rest, text, separators, behind⟩ := splits.exists_first
  rw [String.toList_ofList]
  refine ⟨gap, rest, text, separators, splits.form w List.mem_cons_self, ?_⟩
  rw [split, String.toList_ofList, behind.splitChars_eq]

/-- The words of a name hold all its characters but the underscores. -/
lemma flatMap_toList_split {name : String} (chars : ∀ c ∈ name.toList, Sdl.isNameContinue c) :
    (split name).flatMap String.toList = name.toList.filter (· ≠ '_') := by
  rw [← (splits_splitChars name.toList).flatten_eq_filter chars, split, List.flatMap_map]
  simp

/-- Nothing but a small letter goes on with small letters that are no word of their own. -/
lemma EndsCapitals.head_eq (ends : EndsCapitals (c :: cs)) (letter : c.isAlpha) :
    c.isUpper ∧ ∃ d ∈ cs.head?, d.isLower := by
  cases ends with
  | other other =>
    rw [letter] at other
    cases other
  | @word _ d _ upper lower _ => exact ⟨upper, d, rfl, lower⟩

/-! ## From the text to the last word -/

/-- The last word of the text is that of its end, if no word goes over the front of the end. -/
lemma getLast?_splitChars_append (parted : Parted front run) (form : Form run) :
    (splitChars (front ++ run)).getLast? = some run := by
  rw [splitChars_append parted, form.splitChars_eq, List.getLast?_concat]

section SmallLetters
variable (lower : ∀ d ∈ run, d.isLower)
include lower

/-- Small letters behind something else than a letter are the last word. -/
lemma getLast?_splitChars_small (ne : run ≠ []) (apart : ∀ x ∈ front.getLast?, x.isAlpha = false) :
    (splitChars (front ++ run)).getLast? = some run := by
  obtain ⟨d, run, rfl⟩ := List.exists_cons_of_ne_nil ne
  have first : d.isLower := lower d List.mem_cons_self
  refine getLast?_splitChars_append (fun x mem => ⟨fun upper => ?_, fun small => ?_, fun _ => ?_⟩)
    (.small ne lower)
  · exact absurd (isAlpha_of_isUpper upper) (by simp [apart x mem])
  · exact absurd (isAlpha_of_isLower small) (by simp [apart x mem])
  · simpa using isDecimal_eq_false (isAlpha_of_isLower first)

/-- Two small letters or more belong to the capital in front of them. -/
lemma getLast?_splitChars_capitalized (two : 2 ≤ run.length) (upper : c.isUpper) :
    (splitChars (front ++ c :: run)).getLast? = some (c :: run) := by
  obtain ⟨d, e, run, rfl⟩ : ∃ d e rest, run = d :: e :: rest := by
    match run, two with
    | d :: e :: rest, _ => exact ⟨d, e, rest, rfl⟩
  have first : d.isLower := lower d List.mem_cons_self
  have second : e.isLower := lower e (List.mem_cons_of_mem d List.mem_cons_self)
  have ends : EndsCapitals (c :: d :: e :: run) := .word upper first fun _ => ⟨e, rfl, second⟩
  refine getLast?_splitChars_append (fun x _ => ⟨fun _ => ends, fun _ => ?_, fun _ => ?_⟩)
    (.capitalized upper (List.cons_ne_nil _ _) lower)
  · simpa using isLower_eq_false_of_isUpper upper
  · simpa using isDecimal_eq_false (isAlpha_of_isUpper upper)

end SmallLetters

/-- Capitals and an `s` are a word, whether it is a plural acronym or a single capital. -/
lemma getLast?_splitChars_capitals (ne : run ≠ []) (upper : ∀ d ∈ run, d.isUpper)
    (apart : ∀ x ∈ front.getLast?, x.isUpper = false) :
    (splitChars (front ++ (run ++ ['s']))).getLast? = some (run ++ ['s']) := by
  have form : Form (run ++ ['s']) := by
    by_cases two : 2 ≤ run.length
    · exact .acronyms two upper
    · have pos := List.length_pos_iff.2 ne
      obtain ⟨c, rfl⟩ := List.length_eq_one_iff.1 (by omega : run.length = 1)
      exact .capitalized (upper c (List.mem_singleton_self c)) (List.cons_ne_nil _ _)
        (List.forall_mem_singleton.2 rfl)
  obtain ⟨d, run, rfl⟩ := List.exists_cons_of_ne_nil ne
  have first : d.isUpper := upper d List.mem_cons_self
  refine getLast?_splitChars_append (fun x mem => ⟨fun upper => ?_, fun _ => ?_, fun _ => ?_⟩) form
  · rw [apart x mem] at upper
    cases upper
  · simpa using isLower_eq_false_of_isUpper first
  · simpa using isDecimal_eq_false (isAlpha_of_isUpper first)

/-- A letter with two small letters behind it at the end of a text belongs to its last word with
them. -/
lemma exists_getLast?_of_small {e : Char} (letter : c.isAlpha) (first : d.isLower)
    (second : e.isLower) :
    ∃ w, (splitChars (cs ++ [c, d, e])).getLast? = some w ∧ [c, d, e] <:+ w := by
  have two : ∀ x ∈ [d, e], x.isLower := by simp [first, second]
  cases upper : c.isUpper with
  | true => exact ⟨_, getLast?_splitChars_capitalized two le_rfl upper, List.suffix_rfl⟩
  | false =>
    have lower : c.isLower := by simpa [Char.isAlpha, upper] using letter
    -- all small letters in front of the three belong to the word too
    obtain ⟨front, run, rfl, small, ends⟩ := exists_run_back Char.isLower cs
    have all : ∀ x ∈ run ++ [c, d, e], x.isLower := by
      rw [List.forall_mem_append, List.forall_mem_cons]
      exact ⟨small, lower, two⟩
    rw [List.append_assoc]
    rcases List.eq_nil_or_concat' front with rfl | ⟨front, x, rfl⟩
    · exact ⟨_, getLast?_splitChars_small all (by simp) nofun, List.suffix_append _ _⟩
    · have not_lower : x.isLower = false := ends x (by simp)
      cases capital : x.isUpper with
      | true =>
        rw [← List.append_cons]
        exact ⟨_, getLast?_splitChars_capitalized all (by simp) capital,
          (List.suffix_append run _).trans (List.suffix_cons x _)⟩
      | false =>
        refine ⟨_, getLast?_splitChars_small all (by simp) ?_, List.suffix_append _ _⟩
        simp [Char.isAlpha, capital, not_lower]

end SchemaLint.Word

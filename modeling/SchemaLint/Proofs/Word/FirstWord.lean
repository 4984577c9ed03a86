import Mathlib
import SchemaLint.Proofs.Word.LastWord
import SchemaLint.Word.Casing

/-!
# The first word of a text

A text is taken for a verb and its object by cutting as many characters off its front as its first
word has. The word is what is cut off only if it stands in front: behind separators the object starts
in the separators or in the word itself (`exists_of_startsUpper_object`). So an object with a capital
in front behind a verb that starts with a small letter is all that the verb leaves of the text, and the
verb is of small letters: `verbAndObject_iff`.
-/

namespace SchemaLint.Word

variable {w gap rest : List Char} {name v o : String}

/-- The text starts with a small letter. -/
def startsLower (s : String) : Bool := s.toList.head?.any Char.isLower

/-- The text is of small letters. -/
def isSmall (s : String) : Bool := s.toList.all Char.isLower

/-- A word with a small letter in front is of small letters. -/
lemma Form.forall_isLower (form : Form w) (first : ∃ c ∈ w.head?, c.isLower) :
    ∀ c ∈ w, c.isLower := by
  obtain ⟨c, head, lower⟩ := first
  have not_upper : ¬c.isUpper := by simp [isUpper_eq_false_of_isLower lower]
  cases form with
  | capitals _ upper => exact absurd (upper c (List.mem_of_head? head)) not_upper
  | @acronyms v two upper =>
    rw [List.head?_append_of_ne_nil v (List.ne_nil_of_length_pos (by omega))] at head
    exact absurd (upper c (List.mem_of_head? head)) not_upper
  | small _ lower => exact lower
  | capitalized upper _ _ =>
    cases head
    exact absurd upper not_upper
  | digits _ digit =>
    have no_letter := isAlpha_eq_false (digit c (List.mem_of_head? head))
    rw [isAlpha_of_isLower lower] at no_letter
    cases no_letter

/-! ## Cutting the first word off -/

/-- Where as many characters are cut off as the word has that stands behind the gap, as many
characters of the gap and the word are left as the gap has. -/
lemma drop_length_eq : (gap ++ w ++ rest).drop w.length = (gap ++ w).drop w.length ++ rest :=
  List.drop_append_of_le_length (by simp)

/-- A text starts with a capital if its first character is one. -/
lemma startsUpper_iff {s : String} : startsUpper s ↔ ∃ c ∈ s.toList.head?, c.isUpper := by
  rw [startsUpper, Option.any_eq_true]
  rfl

/-- What stands in front of an object with a capital: a gap and the first word, of which the last
characters are taken for the front of the object, as many as the gap has. -/
lemma exists_of_startsUpper_object (upper : startsUpper (verbAndObject name).2) :
    ∃ gap w rest, name.toList = gap ++ w ++ rest ∧ (∀ c ∈ gap, isSeparator c) ∧ Form w ∧
      split name = String.ofList w :: split (String.ofList rest) ∧
      verbAndObject name = (String.ofList w, String.ofList ((gap ++ w).drop w.length ++ rest)) := by
  have splits := splits_splitChars name.toList
  rw [verbAndObject] at upper ⊢
  cases words : splitChars name.toList with
  | nil =>
    rw [words] at upper
    cases upper
  | cons w ws =>
    rw [words] at splits
    obtain ⟨gap, rest, text, separators, behind⟩ := splits.exists_first
    refine ⟨gap, w, rest, text, separators, splits.form w List.mem_cons_self, ?_, ?_⟩
    · rw [split, words, split, String.toList_ofList, behind.splitChars_eq, List.map_cons]
    · rw [← drop_length_eq, ← text]

/-- Small letters are a word in front of any character that goes on with them in no way. -/
lemma splitChars_small_append (ne : w ≠ []) (small : ∀ c ∈ w, c.isLower)
    (ends : ∀ d ∈ rest.head?, d.isLower = false) : splitChars (w ++ rest) = w :: splitChars rest := by
  have parted : Parted w rest :=
    parted_of_forall fun x mem => (endsAfter_of_isLower (small x mem)).2 ends
  rw [splitChars_append parted, (Form.small ne small).splitChars_eq, List.singleton_append]

/-- A verb of small letters is the first word in front of a capital. -/
lemma split_append (small : isSmall v) (ne : v ≠ "") (upper : startsUpper o) :
    split (v ++ o) = v :: split o ∧ verbAndObject (v ++ o) = (v, o) := by
  have not_nil : v.toList ≠ [] := by simpa using ne
  have ends : ∀ d ∈ o.toList.head?, d.isLower = false := by
    intro d mem
    obtain ⟨c, head, upper⟩ := startsUpper_iff.1 upper
    rw [Option.mem_unique mem head]
    exact isLower_eq_false_of_isUpper upper
  have words : splitChars (v.toList ++ o.toList) = v.toList :: splitChars o.toList :=
    splitChars_small_append not_nil (List.all_eq_true.1 small) ends
  constructor
  · rw [split, String.toList_append, words, List.map_cons, String.ofList_toList, split]
  · rw [verbAndObject, String.toList_append, words]
    simp only [List.drop_left, String.ofList_toList]

/-- Behind a word of small letters the object starts with a capital only if the word stands in front. -/
lemma gap_eq_nil {c : Char} (separators : ∀ c ∈ gap, isSeparator c) (small : ∀ c ∈ w, c.isLower)
    (head : c ∈ ((gap ++ w).drop w.length ++ rest).head?) (capital : c.isUpper) : gap = [] := by
  cases gap with
  | nil => rfl
  | cons g gap =>
    -- the object starts with a character of the gap or of the word, and neither has a capital
    have ne : (g :: gap ++ w).drop w.length ≠ [] := List.ne_nil_of_length_pos (by simp)
    rw [List.head?_append_of_ne_nil _ ne] at head
    rcases List.mem_append.1 (List.mem_of_mem_drop (List.mem_of_head? head)) with mem | mem
    · have separator := separators c mem
      rw [isSeparator, isAlpha_of_isUpper capital] at separator
      cases separator
    · have lower := isLower_eq_false_of_isUpper capital
      rw [small c mem] at lower
      cases lower

/-- A verb that starts with a small letter has an object with a capital just if it is of small letters
and the name is made of the two. -/
lemma verbAndObject_iff (starts : startsLower v) :
    (verbAndObject name).1 = v ∧ startsUpper (verbAndObject name).2 ↔
      isSmall v ∧ ∃ o, startsUpper o ∧ name = v ++ o := by
  constructor
  · rintro ⟨rfl, upper⟩
    obtain ⟨gap, w, rest, text, separators, form, -, parts⟩ := exists_of_startsUpper_object upper
    rw [parts] at starts upper ⊢
    rw [startsLower, String.toList_ofList, Option.any_eq_true] at starts
    have small := form.forall_isLower starts
    obtain ⟨c, head, capital⟩ := startsUpper_iff.1 upper
    rw [String.toList_ofList] at head
    obtain rfl := gap_eq_nil separators small head capital
    rw [List.nil_append, List.drop_length, List.nil_append] at upper
    refine ⟨by rwa [isSmall, String.toList_ofList, List.all_eq_true], _, upper, ?_⟩
    rw [← String.ofList_append, ← List.nil_append w, ← text, String.ofList_toList]
  · rintro ⟨small, o, upper, rfl⟩
    have ne : v ≠ "" := by
      rintro rfl
      cases starts
    rw [(split_append small ne upper).2]
    exact ⟨rfl, upper⟩

end SchemaLint.Word

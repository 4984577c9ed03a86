import Mathlib

/-!
# Runs of a class of characters

A text is a run of characters of a class with a rest that starts with no such character, and in no
other way: `exists_run`, `takeWhile_run`, `dropWhile_run`.
-/

namespace SchemaLint.Text

variable {p : Char → Bool} {c : Char} {w rest : List Char}

/-- Nothing is taken of a text that does not start with the class. -/
lemma takeWhile_eq_nil (ends : ∀ d ∈ rest.head?, p d = false) : rest.takeWhile p = [] := by
  cases rest with
  | nil => rfl
  | cons d rest => exact List.takeWhile_cons_of_neg (by simp [ends d rfl])

/-- A run of the class is taken if no more of it comes behind. -/
lemma takeWhile_run (all : ∀ x ∈ w, p x) (ends : ∀ d ∈ rest.head?, p d = false) :
    (w ++ rest).takeWhile p = w := by
  rw [List.takeWhile_append_of_pos all, takeWhile_eq_nil ends, List.append_nil]

/-- Nothing is dropped of a text that does not start with the class. -/
lemma dropWhile_eq_self (ends : ∀ d ∈ rest.head?, p d = false) : rest.dropWhile p = rest := by
  cases rest with
  | nil => rfl
  | cons d rest => exact List.dropWhile_cons_of_neg (by simp [ends d rfl])

/-- A run of the class is dropped if no more of it comes behind. -/
lemma dropWhile_run (all : ∀ x ∈ w, p x) (ends : ∀ d ∈ rest.head?, p d = false) :
    (w ++ rest).dropWhile p = rest := by
  rw [List.dropWhile_append_of_pos all, dropWhile_eq_self ends]

/-- A text is a run of characters of a class with a rest that starts with no such character. -/
lemma exists_run (p : Char → Bool) (cs : List Char) :
    ∃ w rest, cs = w ++ rest ∧ (∀ x ∈ w, p x) ∧ ∀ d ∈ rest.head?, p d = false := by
  refine ⟨cs.takeWhile p, cs.dropWhile p, List.takeWhile_append_dropWhile.symm,
    fun x => List.mem_takeWhile_imp, fun d mem => ?_⟩
  have not_p := List.head?_dropWhile_not p cs
  rw [Option.mem_def.1 mem] at not_p
  exact not_p

/-- The run of a class at the front of a text whose first character is of the class. -/
lemma exists_run_cons (first : p c) (cs : List Char) :
    ∃ w rest, c :: cs = w ++ rest ∧ w ≠ [] ∧ (∀ x ∈ w, p x) ∧ ∀ d ∈ rest.head?, p d = false := by
  obtain ⟨w, rest, text, all, ends⟩ := exists_run p (c :: cs)
  refine ⟨w, rest, text, ?_, all, ends⟩
  rintro rfl
  rw [List.nil_append] at text
  rw [← text] at ends
  simp [first] at ends

/-- A text is a run of characters of a class behind a text that does not end with one. -/
lemma exists_run_back (p : Char → Bool) (cs : List Char) :
    ∃ front run, cs = front ++ run ∧ (∀ x ∈ run, p x) ∧ ∀ x ∈ front.getLast?, p x = false := by
  obtain ⟨run, front, text, all, ends⟩ := exists_run p cs.reverse
  refine ⟨front.reverse, run.reverse, ?_, fun x mem => all x (List.mem_reverse.1 mem), ?_⟩
  · rw [← List.reverse_append, ← text, List.reverse_reverse]
  · rwa [List.getLast?_reverse]

end SchemaLint.Text

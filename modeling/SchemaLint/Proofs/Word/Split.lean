import Mathlib
import SchemaLint.Proofs.Text.Runs
import SchemaLint.Sdl.Lexer
import SchemaLint.Word.Basic

/-!
# How a text is split into words

A word has one of a few forms and ends where the text behind it cannot go on with it. `Splits` tells
the words of a text by these two alone, and `splitChars` finds them: `splits_splitChars`,
`Splits.splitChars_eq`. Two texts that no word joins are split one after the other:
`splitChars_append`.

Of a name of the schema language nothing is lost but its underscores: `split_pieces`.
-/

namespace SchemaLint.Word

open Text (takeWhile_run dropWhile_run exists_run exists_run_cons)

/-! ## Classes of characters -/

section
variable {c : Char}

/-- Capitals by their numbers. -/
lemma isUpper_iff : c.isUpper ↔ 65 ≤ c.toNat ∧ c.toNat ≤ 90 := by
  simp [Char.isUpper, UInt32.le_iff_toNat_le, ← Char.toNat_val]

/-- Small letters by their numbers. -/
lemma isLower_iff : c.isLower ↔ 97 ≤ c.toNat ∧ c.toNat ≤ 122 := by
  simp [Char.isLower, UInt32.le_iff_toNat_le, ← Char.toNat_val]

/-- A capital is a letter. -/
lemma isAlpha_of_isUpper (upper : c.isUpper) : c.isAlpha := by simp [Char.isAlpha, upper]

/-- A small letter is a letter. -/
lemma isAlpha_of_isLower (lower : c.isLower) : c.isAlpha := by simp [Char.isAlpha, lower]

/-- A capital is no small letter. -/
lemma isLower_eq_false_of_isUpper (upper : c.isUpper) : c.isLower = false := by
  simpa using Char.not_isLower_of_isUpper upper

/-- A small letter is no capital. -/
lemma isUpper_eq_false_of_isLower (lower : c.isLower) : c.isUpper = false := by
  simpa using Char.not_isUpper_of_isLower lower

/-- Letters are ASCII characters. -/
lemma toNat_lt_of_isAlpha (letter : c.isAlpha) : c.toNat < 128 := by
  rw [Char.isAlpha, Bool.or_eq_true, isUpper_iff, isLower_iff] at letter
  omega

/-- Among ASCII characters there are no digits but the ten. -/
lemma isDecimal_eq_isDigit (ascii : c.toNat < 128) : Unicode.isDecimal c = c.isDigit := if_pos ascii

/-- A letter is no digit. -/
lemma isDecimal_eq_false (letter : c.isAlpha) : Unicode.isDecimal c = false := by
  rw [isDecimal_eq_isDigit (toNat_lt_of_isAlpha letter), Bool.eq_false_iff, ne_eq,
    Char.isDigit_iff_toNat]
  rw [Char.isAlpha, Bool.or_eq_true, isUpper_iff, isLower_iff] at letter
  change ¬(48 ≤ c.toNat ∧ c.toNat ≤ 57)
  omega

/-- A digit is no letter. -/
lemma isAlpha_eq_false (digit : Unicode.isDecimal c) : c.isAlpha = false := by
  cases letter : c.isAlpha with
  | false => rfl
  | true => rw [isDecimal_eq_false letter] at digit; cases digit

end

/-- The character belongs to no word. -/
def isSeparator (c : Char) : Bool := !c.isAlpha && !Unicode.isDecimal c

/-! ## Forms of words -/

/-- The forms of a word: capitals, several capitals with a plural `s`, small letters, small letters
behind a capital, digits. -/
inductive Form : List Char → Prop
  | capitals {w} : w ≠ [] → (∀ c ∈ w, c.isUpper) → Form w
  | acronyms {w} : 2 ≤ w.length → (∀ c ∈ w, c.isUpper) → Form (w ++ ['s'])
  | small {w} : w ≠ [] → (∀ c ∈ w, c.isLower) → Form w
  | capitalized {c w} : c.isUpper → w ≠ [] → (∀ d ∈ w, d.isLower) → Form (c :: w)
  | digits {w} : w ≠ [] → (∀ c ∈ w, Unicode.isDecimal c) → Form w

/-- Capitals end in front of the text: it starts with no letter, or with a capital and small letters
that are more than an `s`. -/
inductive EndsCapitals : List Char → Prop
  | nil : EndsCapitals []
  | other {c cs} : c.isAlpha = false → EndsCapitals (c :: cs)
  | word {c d cs} : c.isUpper → d.isLower → (d = 's' → ∃ e ∈ cs.head?, e.isLower) →
    EndsCapitals (c :: d :: cs)

/-- A word with the last character `x` ends in front of the text. -/
structure EndsAfter (x : Char) (cs : List Char) : Prop where
  capitals : x.isUpper → EndsCapitals cs
  small : x.isLower → ∀ d ∈ cs.head?, d.isLower = false
  digits : Unicode.isDecimal x → ∀ d ∈ cs.head?, Unicode.isDecimal d = false

/-- No word goes over the border between the two texts. -/
def Parted (a b : List Char) : Prop := ∀ x ∈ a.getLast?, EndsAfter x b

/-- The words of a text. -/
inductive Splits : List (List Char) → List Char → Prop
  | nil : Splits [] []
  | skip {c ws cs} : isSeparator c → Splits ws cs → Splits ws (c :: cs)
  | word {w ws rest} : Form w → Parted w rest → Splits ws rest → Splits (w :: ws) (w ++ rest)

variable {c d x : Char} {w a b cs rest : List Char} {ws vs : List (List Char)}

/-- No word is empty. -/
lemma Form.ne_nil (form : Form w) : w ≠ [] := by
  cases form with
  | capitals ne _ => exact ne
  | acronyms _ _ => simp
  | small ne _ => exact ne
  | capitalized _ _ _ => simp
  | digits ne _ => exact ne

/-! ## Borders -/

/-- A word ends behind a capital if capitals end there. -/
lemma endsAfter_of_isUpper (upper : x.isUpper) : EndsAfter x cs ↔ EndsCapitals cs := by
  refine ⟨fun ends => ends.capitals upper,
    fun ends => ⟨fun _ => ends, fun lower => ?_, fun digit => ?_⟩⟩
  · rw [isLower_eq_false_of_isUpper upper] at lower
    cases lower
  · rw [isDecimal_eq_false (isAlpha_of_isUpper upper)] at digit
    cases digit

/-- A word ends behind a small letter if no further one comes. -/
lemma endsAfter_of_isLower (lower : x.isLower) :
    EndsAfter x cs ↔ ∀ d ∈ cs.head?, d.isLower = false := by
  refine ⟨fun ends => ends.small lower, fun ends => ⟨fun upper => ?_, fun _ => ends, fun digit => ?_⟩⟩
  · rw [isLower_eq_false_of_isUpper upper] at lower
    cases lower
  · rw [isDecimal_eq_false (isAlpha_of_isLower lower)] at digit
    cases digit

/-- A word ends behind a digit if no further one comes. -/
lemma endsAfter_of_isDecimal (digit : Unicode.isDecimal x) :
    EndsAfter x cs ↔ ∀ d ∈ cs.head?, Unicode.isDecimal d = false := by
  refine ⟨fun ends => ends.digits digit, fun ends => ⟨fun upper => ?_, fun lower => ?_, fun _ => ends⟩⟩
  · rw [isDecimal_eq_false (isAlpha_of_isUpper upper)] at digit
    cases digit
  · rw [isDecimal_eq_false (isAlpha_of_isLower lower)] at digit
    cases digit

/-- No word goes on behind a separator. -/
lemma endsAfter_of_isSeparator (separator : isSeparator x) : EndsAfter x cs := by
  rw [isSeparator, Bool.and_eq_true, Bool.not_eq_true', Bool.not_eq_true'] at separator
  refine ⟨fun upper => ?_, fun lower => ?_, fun digit => ?_⟩
  · rw [isAlpha_of_isUpper upper] at separator
    cases separator.1
  · rw [isAlpha_of_isLower lower] at separator
    cases separator.1
  · rw [digit] at separator
    cases separator.2

/-- Two texts are parted if a word ends behind each character of the first. -/
lemma parted_of_forall (ends : ∀ x ∈ a, EndsAfter x b) : Parted a b := fun x mem =>
  ends x (List.mem_of_getLast? mem)

/-- There is no border behind an empty text. -/
lemma parted_nil_left : Parted [] b := nofun

/-- Some character of the first text is the last one, and what it has to say counts. -/
lemma Parted.exists_last (parted : Parted a b) (ne : a ≠ []) : ∃ x ∈ a, EndsAfter x b := by
  have last := List.getLast?_eq_some_getLast ne
  exact ⟨a.getLast ne, List.getLast_mem ne, parted _ last⟩

/-- The border of a text is that of its last part. -/
lemma parted_append_left (ne : b ≠ []) : Parted (a ++ b) cs ↔ Parted b cs := by
  rw [Parted, Parted, List.getLast?_append_of_ne_nil _ ne]

/-- Whether capitals end in front of a text is seen in the front of it. -/
lemma EndsCapitals.append (ends : EndsCapitals a) (ne : a ≠ []) : EndsCapitals (a ++ b) := by
  cases ends with
  | nil => exact absurd rfl ne
  | other other => exact .other other
  | word upper lower plural =>
    refine .word upper lower fun eq => ?_
    obtain ⟨e, mem, lower⟩ := plural eq
    exact ⟨e, List.mem_head?_append_of_mem_head? mem, lower⟩

/-- What ends a word in front of some characters ends it in front of these and more. -/
lemma Parted.append (parted : Parted a b) (ne : b ≠ []) : Parted a (b ++ cs) := by
  intro x mem
  obtain ⟨capitals, small, digits⟩ := parted x mem
  have head : b.head? = (b ++ cs).head? := (List.head?_append_of_ne_nil b ne).symm
  rw [head] at small digits
  exact ⟨fun upper => (capitals upper).append ne, small, digits⟩

/-! ## The leading word -/

/-- Small letters are the first word if no further one comes. -/
lemma leading_small (ne : w ≠ []) (lower : ∀ x ∈ w, x.isLower)
    (ends : ∀ d ∈ rest.head?, d.isLower = false) : leading (w ++ rest) = w := by
  obtain ⟨c, w, rfl⟩ := List.exists_cons_of_ne_nil ne
  have first : c.isLower := lower c List.mem_cons_self
  rw [leading.eq_def]
  simp only [List.cons_append, isUpper_eq_false_of_isLower first, first]
  exact takeWhile_run lower ends

/-- Digits are the first word if no further one comes. -/
lemma leading_digits (ne : w ≠ []) (digit : ∀ x ∈ w, Unicode.isDecimal x)
    (ends : ∀ d ∈ rest.head?, Unicode.isDecimal d = false) : leading (w ++ rest) = w := by
  obtain ⟨c, w, rfl⟩ := List.exists_cons_of_ne_nil ne
  have first : Unicode.isDecimal c := digit c List.mem_cons_self
  have no_letter := isAlpha_eq_false first
  rw [Char.isAlpha, Bool.or_eq_false_iff] at no_letter
  rw [leading.eq_def]
  simp only [List.cons_append, no_letter.1, no_letter.2, first]
  exact takeWhile_run digit ends

/-- Capitals at the end of a text are its last word. -/
lemma leading_capitals_nil (ne : w ≠ []) (upper : ∀ x ∈ w, x.isUpper) : leading w = w := by
  obtain ⟨c, w, rfl⟩ := List.exists_cons_of_ne_nil ne
  have first : c.isUpper := upper c List.mem_cons_self
  have run := List.takeWhile_eq_self_iff.2 upper
  have rest_of_run := List.dropWhile_eq_nil_iff.2 upper
  simp only [leading, first, rest_of_run, if_true, run]

/-- What capitals make of the text behind them. -/
lemma leading_capitals_cons (ne : w ≠ []) (upper : ∀ x ∈ w, x.isUpper) (ends : d.isUpper = false) :
    leading (w ++ d :: cs) =
      if !d.isLower then w
      else if w.length = 1 then w ++ (d :: cs).takeWhile Char.isLower
      else if d = 's' ∧ (cs.takeWhile Char.isLower).isEmpty then w ++ [d]
      else w.dropLast := by
  obtain ⟨c, w, rfl⟩ := List.exists_cons_of_ne_nil ne
  have first : c.isUpper := upper c List.mem_cons_self
  have stops : ∀ e ∈ (d :: cs).head?, e.isUpper = false := by simpa using ends
  have run := takeWhile_run upper stops
  have rest_of_run := dropWhile_run upper stops
  rw [List.cons_append] at run rest_of_run
  simp only [List.cons_append, leading, first, run, rest_of_run, if_true]
  congr 1
  split_ifs with one plural
  · obtain ⟨_, eq⟩ := List.length_eq_one_iff.1 one
    cases eq
    rfl
  · rfl
  · rfl

/-- Nothing is taken if the first character is not of the kind. -/
lemma isEmpty_takeWhile_iff {p : Char → Bool} :
    (cs.takeWhile p).isEmpty ↔ ∀ d ∈ cs.head?, p d = false := by
  cases cs with
  | nil => simp
  | cons d cs => cases taken : p d <;> simp [taken]

/-- What `leading` finds behind capitals has one of the forms and ends where it has to. -/
lemma exists_of_leading_capitals (ne : a ≠ []) (upper : ∀ x ∈ a, x.isUpper)
    (ends : ∀ d ∈ rest.head?, d.isUpper = false) :
    ∃ behind, a ++ rest = leading (a ++ rest) ++ behind ∧ Form (leading (a ++ rest)) ∧
      Parted (leading (a ++ rest)) behind := by
  have parted {v behind : List Char} (upper : ∀ x ∈ v, x.isUpper) (ends : EndsCapitals behind) :
      Parted v behind :=
    parted_of_forall fun x mem => (endsAfter_of_isUpper (upper x mem)).2 ends
  cases rest with
  | nil =>
    rw [List.append_nil, leading_capitals_nil ne upper]
    exact ⟨[], (List.append_nil a).symm, .capitals ne upper, parted upper .nil⟩
  | cons d behind =>
    have not_upper : d.isUpper = false := ends d rfl
    rw [leading_capitals_cons ne upper not_upper]
    split_ifs with no_letter one plural
    · have other : d.isAlpha = false := by
        rw [Char.isAlpha, not_upper, Bool.false_or]
        simpa using no_letter
      exact ⟨d :: behind, rfl, .capitals ne upper, parted upper (.other other)⟩
    · -- a capital and small letters
      obtain ⟨c, rfl⟩ := List.length_eq_one_iff.1 one
      obtain ⟨w, rest, text, not_nil, lower, ends⟩ :=
        exists_run_cons (by simpa using no_letter : d.isLower) behind
      rw [text, takeWhile_run lower ends]
      refine ⟨rest, (List.append_assoc _ _ _).symm,
        .capitalized (upper c (List.mem_singleton_self c)) not_nil lower, ?_⟩
      rw [parted_append_left not_nil]
      exact parted_of_forall fun x mem => (endsAfter_of_isLower (lower x mem)).2 ends
    · -- several capitals and a plural
      obtain ⟨rfl, alone⟩ := plural
      have two : 2 ≤ a.length := by
        have pos := List.length_pos_iff.2 ne
        omega
      refine ⟨behind, (List.append_cons a 's' behind), .acronyms two upper, ?_⟩
      rw [parted_append_left (List.cons_ne_nil _ _)]
      refine parted_of_forall fun x mem => ?_
      rw [List.mem_singleton.1 mem, endsAfter_of_isLower (by decide)]
      exact isEmpty_takeWhile_iff.1 alone
    · -- the last capital belongs to the small letters behind it
      obtain ⟨v, c, rfl⟩ := (List.eq_nil_or_concat' a).resolve_left ne
      rw [List.forall_mem_append, List.forall_mem_singleton] at upper
      rw [List.length_append, List.length_singleton] at one
      have not_nil : v ≠ [] := List.ne_nil_of_length_pos (by omega)
      rw [List.dropLast_concat]
      refine ⟨c :: d :: behind, List.append_cons v c _ ▸ rfl, .capitals not_nil upper.1,
        parted upper.1 (.word upper.2 (by simpa using no_letter) fun eq => ?_)⟩
      rw [eq, isEmpty_takeWhile_iff] at plural
      simpa using plural

/-- What `leading` finds in front of a text has one of the forms and ends where it has to. -/
lemma exists_of_leading (ne : leading cs ≠ []) :
    ∃ rest, cs = leading cs ++ rest ∧ Form (leading cs) ∧ Parted (leading cs) rest := by
  cases cs with
  | nil => exact absurd rfl ne
  | cons c cs =>
    by_cases upper : c.isUpper
    · obtain ⟨w, rest, text, not_nil, all, ends⟩ := exists_run_cons upper cs
      rw [text]
      exact exists_of_leading_capitals not_nil all ends
    by_cases lower : c.isLower
    · obtain ⟨w, rest, text, not_nil, all, ends⟩ := exists_run_cons lower cs
      rw [text, leading_small not_nil all ends]
      exact ⟨rest, rfl, .small not_nil all,
        parted_of_forall fun x mem => (endsAfter_of_isLower (all x mem)).2 ends⟩
    by_cases digit : Unicode.isDecimal c
    · obtain ⟨w, rest, text, not_nil, all, ends⟩ := exists_run_cons digit cs
      rw [text, leading_digits not_nil all ends]
      exact ⟨rest, rfl, .digits not_nil all,
        parted_of_forall fun x mem => (endsAfter_of_isDecimal (all x mem)).2 ends⟩
    · refine absurd ?_ ne
      rw [leading, if_neg upper, if_neg lower, if_neg digit]

/-- Only a separator starts no word. -/
lemma leading_eq_nil_iff : leading (c :: cs) = [] ↔ isSeparator c := by
  have separator_iff : isSeparator c ↔
      ¬c.isUpper ∧ ¬c.isLower ∧ ¬Unicode.isDecimal c := by
    simp [isSeparator, Char.isAlpha, and_assoc]
  rw [separator_iff]
  constructor
  · intro none
    refine ⟨fun upper => ?_, fun lower => ?_, fun digit => ?_⟩
    · obtain ⟨w, rest, text, ne, all, ends⟩ := exists_run_cons upper cs
      obtain ⟨_, -, form, -⟩ := exists_of_leading_capitals ne all ends
      exact form.ne_nil (text ▸ none)
    · obtain ⟨w, rest, text, ne, all, ends⟩ := exists_run_cons lower cs
      rw [text, leading_small ne all ends] at none
      exact ne none
    · obtain ⟨w, rest, text, ne, all, ends⟩ := exists_run_cons digit cs
      rw [text, leading_digits ne all ends] at none
      exact ne none
  · rintro ⟨upper, lower, digit⟩
    rw [leading, if_neg upper, if_neg lower, if_neg digit]

/-- Capitals are a word if they end: the one that small letters follow is counted among them, and then
left to its own word. -/
lemma leading_append_capitals (ne : w ≠ []) (upper : ∀ x ∈ w, x.isUpper) (ends : EndsCapitals rest) :
    leading (w ++ rest) = w := by
  cases ends with
  | nil => rw [List.append_nil, leading_capitals_nil ne upper]
  | @other d behind other =>
    rw [Char.isAlpha, Bool.or_eq_false_iff] at other
    rw [leading_capitals_cons ne upper other.1, other.2]
    rfl
  | @word c d behind upper' lower plural =>
    have more : ∀ x ∈ w ++ [c], x.isUpper := by
      rw [List.forall_mem_append, List.forall_mem_singleton]
      exact ⟨upper, upper'⟩
    have two : (w ++ [c]).length ≠ 1 := by simpa using ne
    have alone : ¬(d = 's' ∧ (behind.takeWhile Char.isLower).isEmpty) := by
      rintro ⟨eq, alone⟩
      obtain ⟨e, mem, lower⟩ := plural eq
      rw [isEmpty_takeWhile_iff.1 alone e mem] at lower
      cases lower
    rw [List.append_cons, leading_capitals_cons (List.concat_ne_nil _ _) more
      (isUpper_eq_false_of_isLower lower), lower, Bool.not_true, if_neg Bool.false_ne_true,
      if_neg two, if_neg alone, List.dropLast_concat]

/-- A capital and small letters are the first word if no further small one comes. -/
lemma leading_append_capitalized (upper : c.isUpper) (ne : w ≠ []) (lower : ∀ x ∈ w, x.isLower)
    (ends : ∀ d ∈ rest.head?, d.isLower = false) : leading (c :: w ++ rest) = c :: w := by
  obtain ⟨d, w, rfl⟩ := List.exists_cons_of_ne_nil ne
  have first : d.isLower := lower d List.mem_cons_self
  have run : (d :: (w ++ rest)).takeWhile Char.isLower = d :: w := takeWhile_run lower ends
  have capital : ∀ x ∈ [c], x.isUpper := List.forall_mem_singleton.2 upper
  change leading ([c] ++ d :: (w ++ rest)) = _
  rw [leading_capitals_cons (List.cons_ne_nil c []) capital (isUpper_eq_false_of_isLower first),
    first, Bool.not_true, if_neg Bool.false_ne_true, if_pos List.length_singleton, run]
  rfl

/-- Several capitals and a small `s` are the first word if no further small letter comes. -/
lemma leading_append_acronyms (two : 2 ≤ w.length) (upper : ∀ x ∈ w, x.isUpper)
    (ends : ∀ d ∈ rest.head?, d.isLower = false) : leading (w ++ 's' :: rest) = w ++ ['s'] := by
  have lower : 's'.isLower := by decide
  have not_one : w.length ≠ 1 := by omega
  rw [leading_capitals_cons (List.ne_nil_of_length_pos (by omega)) upper
    (isUpper_eq_false_of_isLower lower), lower, Bool.not_true, if_neg Bool.false_ne_true,
    if_neg not_one, if_pos ⟨rfl, isEmpty_takeWhile_iff.2 ends⟩]

/-- A text starts with a word that ends behind it. -/
lemma leading_append (form : Form w) (parted : Parted w rest) : leading (w ++ rest) = w := by
  cases form with
  | capitals ne upper =>
    obtain ⟨x, mem, ends⟩ := parted.exists_last ne
    exact leading_append_capitals ne upper (ends.capitals (upper x mem))
  | @acronyms v two upper =>
    have ends := (parted_append_left (List.cons_ne_nil _ _)).1 parted 's' rfl
    rw [← List.append_cons]
    exact leading_append_acronyms two upper (ends.small (by decide))
  | small ne lower =>
    obtain ⟨x, mem, ends⟩ := parted.exists_last ne
    exact leading_small ne lower (ends.small (lower x mem))
  | @capitalized c v upper ne lower =>
    have parted : Parted v rest := (parted_append_left (a := [c]) ne).1 parted
    obtain ⟨x, mem, ends⟩ := parted.exists_last ne
    exact leading_append_capitalized upper ne lower (ends.small (lower x mem))
  | digits ne digit =>
    obtain ⟨x, mem, ends⟩ := parted.exists_last ne
    exact leading_digits ne digit (ends.digits (digit x mem))

/-! ## Words -/

/-- What `splitChars` finds in a text are its words. -/
lemma splits_splitChars (cs : List Char) : Splits (splitChars cs) cs := by
  induction cs using splitChars.induct with
  | case1 =>
    rw [splitChars]
    exact .nil
  | case2 c cs word none ih =>
    rw [splitChars, dif_pos none]
    exact .skip (leading_eq_nil_iff.1 none) ih
  | case3 c cs word some ih =>
    rw [splitChars, dif_neg some]
    obtain ⟨rest, text, form, parted⟩ := exists_of_leading some
    have behind := congrArg (List.drop (leading (c :: cs)).length) text
    rw [List.drop_left] at behind
    rw [behind] at ih ⊢
    have splits := Splits.word form parted ih
    rw [← text] at splits
    exact splits

/-- A text has no words but those that `splitChars` finds. -/
lemma Splits.splitChars_eq (splits : Splits ws cs) : splitChars cs = ws := by
  induction splits with
  | nil => rw [splitChars]
  | skip separator _ ih => rw [splitChars, dif_pos (leading_eq_nil_iff.2 separator), ih]
  | @word w ws rest form parted _ ih =>
    obtain ⟨c, w, rfl⟩ := List.exists_cons_of_ne_nil form.ne_nil
    have read := leading_append form parted
    rw [List.cons_append] at read ⊢
    rw [splitChars, read, dif_neg (List.cons_ne_nil _ _)]
    rw [← List.cons_append, List.drop_left, ih]

/-- Texts that no word joins are split one after the other. -/
lemma Splits.append (first : Splits ws a) (second : Splits vs b) (parted : Parted a b) :
    Splits (ws ++ vs) (a ++ b) := by
  induction first with
  | nil => exact second
  | @skip c ws cs separator _ ih =>
    refine .skip separator (ih ?_)
    cases cs with
    | nil => exact parted_nil_left
    | cons d cs => exact (parted_append_left (a := [c]) (List.cons_ne_nil d cs)).1 parted
  | @word w ws rest form ends _ ih =>
    rw [List.append_assoc]
    cases rest with
    | nil =>
      rw [List.append_nil] at parted
      exact .word form parted (ih parted_nil_left)
    | cons d rest =>
      have ne : d :: rest ≠ [] := List.cons_ne_nil d rest
      exact .word form (ends.append ne) (ih ((parted_append_left ne).1 parted))

/-- Texts that are parted have the words of both, by induction on the words of the first. -/
lemma splitChars_append (parted : Parted a b) : splitChars (a ++ b) = splitChars a ++ splitChars b :=
  ((splits_splitChars a).append (splits_splitChars b) parted).splitChars_eq

/-- A word is its only word. -/
lemma Form.splitChars_eq (form : Form w) : splitChars w = [w] := by
  have parted : Parted w [] := parted_of_forall fun x _ => ⟨fun _ => .nil, by simp, by simp⟩
  simpa using (Splits.word form parted .nil).splitChars_eq

/-! ## What is kept of a text -/

/-- The words are consecutive pieces of the text, with nothing but underscores around them. -/
inductive Pieces : List (List Char) → List Char → Prop
  | gap {gap} : (∀ c ∈ gap, c = '_') → Pieces [] gap
  | word {gap w ws cs} : (∀ c ∈ gap, c = '_') → Pieces ws cs → Pieces (w :: ws) (gap ++ w ++ cs)

/-- An underscore in front changes nothing of the pieces. -/
lemma Pieces.underscore (pieces : Pieces ws cs) : Pieces ws ('_' :: cs) := by
  cases pieces with
  | gap all => exact .gap (List.forall_mem_cons.2 ⟨rfl, all⟩)
  | @word gap w ws cs all pieces =>
    have longer := Pieces.word (w := w) (List.forall_mem_cons.2 ⟨rfl, all⟩) pieces
    rwa [List.cons_append, List.cons_append] at longer

/-- A word is of letters or of digits. -/
lemma Form.letters_or_digits (form : Form w) :
    (∀ c ∈ w, c.isAlpha) ∨ ∀ c ∈ w, Unicode.isDecimal c := by
  cases form with
  | capitals _ upper => exact .inl fun c mem => isAlpha_of_isUpper (upper c mem)
  | acronyms _ upper =>
    refine .inl (List.forall_mem_append.2 ⟨fun c mem => isAlpha_of_isUpper (upper c mem), ?_⟩)
    exact List.forall_mem_singleton.2 rfl
  | small _ lower => exact .inl fun c mem => isAlpha_of_isLower (lower c mem)
  | capitalized upper _ lower =>
    exact .inl (List.forall_mem_cons.2
      ⟨isAlpha_of_isUpper upper, fun c mem => isAlpha_of_isLower (lower c mem)⟩)
  | digits _ digit => exact .inr digit

/-- The characters of a word are letters and digits. -/
lemma Form.isSeparator_eq_false (form : Form w) : ∀ c ∈ w, isSeparator c = false := by
  rcases form.letters_or_digits with letters | digits
  · exact fun c mem => by simp [isSeparator, letters c mem]
  · exact fun c mem => by simp [isSeparator, digits c mem]

namespace Splits

variable (splits : Splits ws cs)
include splits

/-- Each word of a text has one of the forms of a word. -/
lemma form : ∀ w ∈ ws, Form w := by
  induction splits with
  | nil => simp
  | skip _ _ ih => exact ih
  | word form _ _ ih => exact List.forall_mem_cons.2 ⟨form, ih⟩

/-- The words of a text hold all its letters and digits, in order. -/
lemma flatten_eq : ws.flatten = cs.filter (!isSeparator ·) := by
  induction splits with
  | nil => rfl
  | skip separator _ ih => rw [List.filter_cons_of_neg (by simp [separator]), ih]
  | @word w _ _ form _ _ ih =>
    have all : w.filter (!isSeparator ·) = w :=
      List.filter_eq_self.2 fun c mem => by rw [form.isSeparator_eq_false c mem, Bool.not_false]
    rw [List.flatten_cons, List.filter_append, all, ih]

/-- A text without words is one of separators. -/
lemma eq_nil_iff : ws = [] ↔ ∀ c ∈ cs, isSeparator c := by
  have words : ws = [] ↔ ws.flatten = [] := by
    refine ⟨fun none => by rw [none]; rfl, fun none => ?_⟩
    rw [List.flatten_eq_nil_iff] at none
    exact List.eq_nil_iff_forall_not_mem.2 fun w mem => (splits.form w mem).ne_nil (none w mem)
  rw [words, splits.flatten_eq, List.filter_eq_nil_iff]
  simp

/-- The words of a text whose separators are underscores are its pieces. -/
lemma pieces (separators : ∀ c ∈ cs, isSeparator c → c = '_') : Pieces ws cs := by
  induction splits with
  | nil => exact .gap (by simp)
  | skip separator _ ih =>
    rw [List.forall_mem_cons] at separators
    rw [separators.1 separator]
    exact (ih separators.2).underscore
  | word _ _ _ ih =>
    exact .word (List.forall_mem_nil _) (ih (List.forall_mem_append.1 separators).2)

end Splits

/-! ## Names -/

/-- What may stand in a name is an ASCII character. -/
lemma toNat_lt_of_isNameContinue (name : Sdl.isNameContinue c) : c.toNat < 128 := by
  rw [Sdl.isNameContinue, Char.isAlphanum, Char.isAlpha, Bool.or_eq_true, Bool.or_eq_true,
    Bool.or_eq_true, isUpper_iff, isLower_iff, Char.isDigit_iff_toNat, beq_iff_eq] at name
  rcases name with ((upper | lower) | digit) | rfl
  · omega
  · omega
  · exact Nat.lt_of_le_of_lt digit.2 (by decide)
  · decide

/-- In a name, words are separated by underscores only. -/
lemma isSeparator_iff (name : Sdl.isNameContinue c) : isSeparator c ↔ c = '_' := by
  rw [isSeparator, isDecimal_eq_isDigit (toNat_lt_of_isNameContinue name), Bool.and_eq_true,
    Bool.not_eq_true', Bool.not_eq_true']
  rw [Sdl.isNameContinue, Char.isAlphanum] at name
  constructor
  · rintro ⟨no_letter, no_digit⟩
    simpa [no_letter, no_digit] using name
  · rintro rfl
    exact ⟨rfl, rfl⟩

/-- A separator is what is no letter and no digit of the language. -/
lemma isSeparator_eq (name : Sdl.isNameContinue c) : isSeparator c = !c.isAlphanum := by
  rw [isSeparator, isDecimal_eq_isDigit (toNat_lt_of_isNameContinue name), Char.isAlphanum,
    Bool.not_or]

/-- The words of a name hold all its characters but the underscores. -/
lemma Splits.flatten_eq_filter (splits : Splits ws cs) (chars : ∀ c ∈ cs, Sdl.isNameContinue c) :
    ws.flatten = cs.filter (· ≠ '_') := by
  rw [splits.flatten_eq]
  refine List.filter_congr fun c mem => ?_
  rw [Bool.eq_iff_iff, Bool.not_eq_true', ← Bool.not_eq_true, isSeparator_iff (chars c mem),
    decide_eq_true_iff]

/-- Splitting a name loses and invents nothing: words are not empty and hold no underscore, they are
consecutive pieces of the name with only underscores around them, and together they are the name
without its underscores. There are none just if the name has no letter or digit. -/
theorem split_pieces (name : String) (chars : ∀ c ∈ name.toList, Sdl.isNameContinue c) :
    (∀ w ∈ split name, w ≠ "" ∧ '_' ∉ w.toList) ∧
    Pieces ((split name).map String.toList) name.toList ∧
    (split name).flatMap String.toList = name.toList.filter (· ≠ '_') ∧
    (split name = [] ↔ ∀ c ∈ name.toList, ¬c.isAlphanum) := by
  have splits := splits_splitChars name.toList
  have words : (split name).map String.toList = splitChars name.toList := by
    rw [split, List.map_map]
    simp [Function.comp_def]
  refine ⟨fun word mem => ?_, ?_, ?_, ?_⟩
  · obtain ⟨w, found, rfl⟩ := List.mem_map.1 mem
    have form := splits.form w found
    refine ⟨fun empty => form.ne_nil (by simpa using empty), fun underscore => ?_⟩
    rw [String.toList_ofList] at underscore
    exact Bool.false_ne_true (form.isSeparator_eq_false _ underscore).symm
  · rw [words]
    exact splits.pieces fun c mem => (isSeparator_iff (chars c mem)).1
  · rw [List.flatMap_def, words, splits.flatten_eq_filter chars]
  · rw [split, List.map_eq_nil_iff, splits.eq_nil_iff]
    refine forall₂_congr fun c mem => ?_
    rw [isSeparator_eq (chars c mem)]
    simp

/-- A name with acronyms, a plural one among them, digits and underscores on all sides. -/
theorem split_pieces_acronyms :
    let name := "_userIDs2__URLPath_"
    (∀ c ∈ name.toList, Sdl.isNameContinue c) ∧
    split name = ["user", "IDs", "2", "URL", "Path"] ∧
    (∀ w ∈ split name, w ≠ "" ∧ '_' ∉ w.toList) ∧
    Pieces ((split name).map String.toList) name.toList ∧
    (split name).flatMap String.toList = name.toList.filter (· ≠ '_') ∧
    (split name = [] ↔ ∀ c ∈ name.toList, ¬c.isAlphanum) := by
  intro name
  have chars : ∀ c ∈ name.toList, Sdl.isNameContinue c :=
    List.all_eq_true.1 (by decide +kernel)
  have words : split name = ["user", "IDs", "2", "URL", "Path"] := by cbv
  exact ⟨chars, words, split_pieces name chars⟩

end SchemaLint.Word

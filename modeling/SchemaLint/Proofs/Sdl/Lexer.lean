import Mathlib
import SchemaLint.Proofs.Outcome
import SchemaLint.Sdl.Lexer

/-!
# Texts that go on behind a line end

Where a lexeme is read at the front of a text, it is read at the front of the same text with a line
end and anything more behind it. No lexeme but a block string goes on behind a line end, and a block
string that is read has been closed before.
-/

namespace SchemaLint.Sdl

variable {cs ds note : List Char}

/-- What is taken of a text does not go on behind a line feed. -/
lemma takeWhile_append_newline {p : Char → Bool} (newline : p '\n' = false) :
    (cs ++ '\n' :: note).takeWhile p = cs.takeWhile p := by
  induction cs with
  | nil => simp [newline]
  | cons c cs ih => rw [List.cons_append, List.takeWhile_cons, List.takeWhile_cons, ih]

/-- Characters at the front, none of which is a line end, are in front of the line end. -/
lemma exists_eq_append_of_newline (front : List Char) {tail : List Char} (no_newline : '\n' ∉ front)
    (eq : cs ++ '\n' :: note = front ++ tail) : ∃ more, cs = front ++ more := by
  rcases List.append_eq_append_iff.1 eq with ⟨between, front_eq, eq⟩ | ⟨more, cs_eq, -⟩
  · cases between with
    | nil => exact ⟨[], by simpa using front_eq.symm⟩
    | cons c between =>
      cases (List.cons.inj eq).1
      simp [front_eq] at no_newline
  · exact ⟨more, cs_eq⟩

variable (note)

/-! ## Numbers -/

/-- Digits are the same if a line comes behind the text. -/
lemma leadingDigits_append {offset : Nat} (read : leadingDigits offset cs = .ok ds) :
    ds.length ≤ cs.length ∧ leadingDigits offset (cs ++ '\n' :: note) = .ok ds := by
  rw [leadingDigits] at read ⊢
  rw [takeWhile_append_newline (by decide)]
  cases found : cs.takeWhile Char.isDigit with
  | nil => simp [found] at read
  | cons d more =>
    simp only [found, Except.ok.injEq] at read ⊢
    subst read
    exact ⟨found ▸ (List.takeWhile_sublist _).length_le, rfl⟩

/-- The part of a number behind its point is the same if a line comes behind the text. -/
lemma fractionPart_append {offset n : Nat} (read : fractionPart offset cs = .ok n) :
    n ≤ cs.length ∧ fractionPart offset (cs ++ '\n' :: note) = .ok n := by
  unfold fractionPart at read ⊢
  split at read
  · obtain ⟨ds, digits, rfl⟩ := map_eq_ok_iff.1 read
    obtain ⟨le, same⟩ := leadingDigits_append note digits
    refine ⟨Nat.succ_le_succ le, ?_⟩
    simp only [List.cons_append, same]
    rfl
  · rename_i no_point
    cases read
    refine ⟨Nat.zero_le _, ?_⟩
    split
    · rename_i rest eq
      cases cs with
      | nil => simp at eq
      | cons c cs =>
        cases eq
        exact absurd rfl (no_point _)
    · rfl

/-- An exponent does not start with a line end, and one that is begun has digits. -/
lemma exponentPart_append {offset n : Nat} (read : exponentPart offset cs = .ok n) :
    n ≤ cs.length ∧ exponentPart offset (cs ++ '\n' :: note) = .ok n := by
  cases cs with
  | nil =>
    cases read
    exact ⟨le_rfl, rfl⟩
  | cons c rest =>
    unfold exponentPart at read ⊢
    rw [List.cons_append]
    dsimp only at read ⊢
    split at read
    · rename_i mark
      rw [if_pos mark]
      obtain ⟨ds, digits, rfl⟩ := map_eq_ok_iff.1 read
      have head : (rest ++ '\n' :: note).head? = rest.head? := by
        cases rest with
        | nil => simp [leadingDigits] at digits
        | cons d rest => rfl
      rw [head]
      generalize sign_eq :
        (if rest.head? = some '+' ∨ rest.head? = some '-' then 1 else 0) = sign at digits ⊢
      have small : sign ≤ rest.length := by
        subst sign_eq
        cases rest with
        | nil => simp
        | cons d rest => split <;> simp
      obtain ⟨le, same⟩ := leadingDigits_append note digits
      rw [List.length_drop] at le
      rw [List.drop_append_of_le_length small, same]
      refine ⟨?_, rfl⟩
      rw [List.length_cons]
      omega
    · rename_i no_mark
      cases read
      exact ⟨Nat.zero_le _, if_neg no_mark⟩

/-- A sign, and digits that may start with a zero only if it is the only one. -/
lemma wholePart_append {n : Nat} (read : wholePart cs = .ok n) :
    n ≤ cs.length ∧ wholePart (cs ++ '\n' :: note) = .ok n := by
  have head : (cs ++ '\n' :: note).head? = cs.head? := by
    cases cs with
    | nil => simp [wholePart, leadingDigits] at read
    | cons c cs => rfl
  unfold wholePart at read ⊢
  dsimp only at read ⊢
  rw [head]
  generalize sign_eq : (if cs.head? = some '-' then 1 else 0) = sign at read ⊢
  have small : sign ≤ cs.length := by
    subst sign_eq
    cases cs with
    | nil => simp
    | cons c cs => split <;> simp
  have length : (cs.drop sign).length = cs.length - sign := List.length_drop
  rw [List.drop_append_of_le_length small]
  generalize cs.drop sign = unsigned at read length ⊢
  cases unsigned with
  | nil => simp [leadingDigits] at read
  | cons d rest =>
    rw [List.length_cons] at length
    have head : ((d :: rest) ++ '\n' :: note).head? = (d :: rest).head? := rfl
    rw [head]
    split at read
    · rename_i zero
      rw [if_pos zero]
      cases rest with
      | nil =>
        cases read
        rw [List.length_nil] at length
        exact ⟨by omega, rfl⟩
      | cons c rest =>
        refine ⟨?_, read⟩
        rw [List.length_cons] at length
        dsimp only [List.getElem?_cons_succ, List.getElem?_cons_zero] at read
        split at read
        · cases read
        · cases read
          omega
    · rename_i no_zero
      rw [if_neg no_zero]
      obtain ⟨ds, digits, eq⟩ := bind_eq_ok_iff.1 read
      cases eq
      obtain ⟨le, same⟩ := leadingDigits_append note digits
      rw [List.length_cons] at le
      refine ⟨by omega, ?_⟩
      rw [same]
      rfl

/-- A number is the same if a line comes behind the text. -/
lemma number_append {r : Lexeme × Nat} (read : number cs = .ok r) :
    r.2 ≤ cs.length ∧ number (cs ++ '\n' :: note) = .ok r := by
  unfold number at read ⊢
  obtain ⟨whole, whole_read, read⟩ := bind_eq_ok_iff.1 read
  obtain ⟨whole_le, whole_same⟩ := wholePart_append note whole_read
  obtain ⟨fraction, fraction_read, read⟩ := bind_eq_ok_iff.1 read
  obtain ⟨fraction_le, fraction_same⟩ := fractionPart_append note fraction_read
  rw [List.length_drop] at fraction_le
  obtain ⟨exponent, exponent_read, read⟩ := bind_eq_ok_iff.1 read
  obtain ⟨exponent_le, exponent_same⟩ := exponentPart_append note exponent_read
  rw [List.length_drop] at exponent_le
  have size_le : whole + fraction + exponent ≤ cs.length := by omega
  dsimp only at read
  generalize size_eq : whole + fraction + exponent = size at read size_le
  refine ⟨?_, bind_eq_ok_iff.2 ⟨whole, whole_same, bind_eq_ok_iff.2 ⟨fraction, ?_,
    bind_eq_ok_iff.2 ⟨exponent, ?_, ?_⟩⟩⟩⟩
  · -- what follows the number is either refused or left
    split at read
    · split at read
      · cases read
      · cases read
        exact size_le
    · cases read
      exact size_le
  · rw [List.drop_append_of_le_length whole_le]
    exact fraction_same
  · rw [List.drop_append_of_le_length (by omega)]
    exact exponent_same
  · dsimp only
    rw [size_eq, List.take_append_of_le_length size_le]
    cases next : cs[size]? with
    | none =>
      have last : (cs ++ '\n' :: note)[size]? = some '\n' := by
        have ge := List.getElem?_eq_none_iff.1 next
        rw [List.getElem?_append_right ge, le_antisymm size_le ge]
        simp
      rw [next] at read
      rw [last]
      exact read
    | some c =>
      have inside : (cs ++ '\n' :: note)[size]? = some c := by
        rw [List.getElem?_append_left (List.getElem?_eq_some_iff.1 next).1, next]
      rw [next] at read
      rw [inside]
      exact read

/-! ## Strings -/

/-- An escape with braces is the same if a line comes behind the text. -/
lemma bracedEscape_append {seen point room : Nat} {r : Nat × Nat}
    (read : bracedEscape seen point room cs = .ok r) :
    bracedEscape seen point room (cs ++ '\n' :: note) = .ok r := by
  induction room generalizing seen point cs with
  | zero => simp [bracedEscape] at read
  | succ room ih =>
    cases cs with
    | nil => simp [bracedEscape] at read
    | cons c rest =>
      rw [List.cons_append]
      rw [bracedEscape] at read ⊢
      split
      · rename_i close
        rwa [if_pos close] at read
      · rename_i no_close
        rw [if_neg no_close] at read
        cases digit : Text.Hex.digit? c with
        | none => simp [digit] at read
        | some d =>
          rw [digit] at read
          exact ih read

/-- Characters that are all there are the same if a line comes behind the text. -/
lemma take_drop_append {k n : Nat} (long : ((cs.drop k).take n).length = n) (pos : 0 < n) :
    ((cs ++ '\n' :: note).drop k).take n = (cs.drop k).take n := by
  rw [List.length_take, List.length_drop] at long
  rw [List.drop_append_of_le_length (by omega), List.take_append_of_le_length]
  rw [List.length_drop]
  omega

/-- An escape of four digits is the same if a line comes behind the text. -/
lemma fixedEscape_append {r : Nat × Nat} (read : fixedEscape cs = some r) :
    fixedEscape (cs ++ '\n' :: note) = some r := by
  unfold fixedEscape at read ⊢
  dsimp only at read ⊢
  obtain ⟨high, high_read, read⟩ := Option.bind_eq_some_iff.1 read
  have high_long := (Option.ite_none_right_eq_some.1 high_read).1
  rw [take_drop_append note high_long (by decide), high_read, Option.bind_eq_bind, Option.bind_some]
  by_cases scalar : isScalar high
  · rwa [if_pos scalar] at read ⊢
  · rw [if_neg scalar] at read ⊢
    by_cases no_pair : 0xdc00 ≤ high ∨ (cs.drop 6).take 2 ≠ ['\\', 'u']
    · rw [if_pos no_pair] at read
      cases read
    · rw [if_neg no_pair] at read
      have escape_long : ((cs.drop 6).take 2).length = 2 := by
        rw [not_not.1 (not_or.1 no_pair).2]
        rfl
      rw [take_drop_append note escape_long (by decide), if_neg no_pair]
      obtain ⟨low, low_read, read⟩ := Option.bind_eq_some_iff.1 read
      have low_long := (Option.ite_none_right_eq_some.1 low_read).1
      rw [take_drop_append note low_long (by decide), low_read]
      exact read

/-- An escape is the same if a line comes behind the text. -/
lemma escape_append {r : Char × Nat} (read : escape cs = .ok r) :
    escape (cs ++ '\n' :: note) = .ok r := by
  match cs with
  | [] => cases read
  | [_] => cases read
  | [c, d] =>
    unfold escape at read ⊢
    dsimp only [List.getElem?_cons_succ, List.getElem?_cons_zero, List.cons_append,
      List.nil_append, List.getElem?_nil] at read ⊢
    split at read
    case h_1 none_eq => cases none_eq
    case h_2 => cases read
    case h_11 => cases read
    all_goals
      rename_i eq
      cases eq
      exact read
  | c :: d :: e :: rest =>
    unfold escape at read ⊢
    dsimp only [List.getElem?_cons_succ, List.getElem?_cons_zero, List.cons_append] at read ⊢
    split at read
    case h_1 =>
      cases braced : bracedEscape 3 0 9 ((c :: d :: e :: rest).drop 3) with
      | error _ =>
        rw [braced] at read
        cases read
      | ok _ =>
        have same : bracedEscape 3 0 9 ((c :: d :: e :: (rest ++ '\n' :: note)).drop 3) = _ :=
          bracedEscape_append note braced
        rw [braced] at read
        rw [same]
        exact read
    case h_2 =>
      cases fixed : fixedEscape (c :: d :: e :: rest) with
      | none => simp [fixed] at read
      | some _ =>
        have same : fixedEscape (c :: d :: e :: (rest ++ '\n' :: note)) = _ :=
          fixedEscape_append note fixed
        rw [fixed] at read
        rw [same]
        exact read
    all_goals exact read

/-- A string is closed before the line ends. -/
lemma stringFrom_append {offset skip : Nat} {r : List Char × Nat}
    (read : stringFrom offset skip cs = .ok r) :
    r.2 ≤ offset + cs.length ∧ stringFrom offset skip (cs ++ '\n' :: note) = .ok r := by
  induction cs generalizing offset skip r with
  | nil => cases skip <;> cases read
  | cons c rest ih =>
    rw [List.cons_append, List.length_cons]
    cases skip with
    | succ skip =>
      obtain ⟨le, same⟩ := ih read
      exact ⟨by omega, same⟩
    | zero =>
      rw [stringFrom] at read ⊢
      split_ifs at read ⊢
      · -- the closing quote; a line end would be a fault
        cases read
        exact ⟨by omega, rfl⟩
      · -- an escape
        cases escaped : escape (c :: rest) with
        | error _ =>
          rw [escaped] at read
          cases read
        | ok e =>
          obtain ⟨d, size⟩ := e
          have same_escape : escape (c :: (rest ++ '\n' :: note)) = _ := escape_append note escaped
          rw [escaped] at read
          rw [same_escape]
          obtain ⟨r, tail_read, rfl⟩ := map_eq_ok_iff.1 read
          obtain ⟨le, same⟩ := ih tail_read
          exact ⟨by dsimp only; omega, map_eq_ok_iff.2 ⟨r, same, rfl⟩⟩
      · -- any other character
        obtain ⟨r, tail_read, rfl⟩ := map_eq_ok_iff.1 read
        obtain ⟨le, same⟩ := ih tail_read
        exact ⟨by dsimp only; omega, map_eq_ok_iff.2 ⟨r, same, rfl⟩⟩

/-- A block string is closed before the text ends. -/
lemma blockFrom_append {offset : Nat} {r : List Char × Nat} (read : blockFrom offset cs = .ok r) :
    r.2 ≤ offset + cs.length ∧ blockFrom offset (cs ++ '\n' :: note) = .ok r := by
  induction offset, cs using blockFrom.induct generalizing r with
  | case1 offset tail =>
    cases read
    exact ⟨by simp, rfl⟩
  | case2 offset rest ih =>
    obtain ⟨r, tail_read, rfl⟩ := map_eq_ok_iff.1 read
    obtain ⟨le, same⟩ := ih tail_read
    refine ⟨?_, map_eq_ok_iff.2 ⟨r, same, rfl⟩⟩
    simp only [List.length_cons]
    omega
  | case3 offset c rest no_close no_escape ih =>
    rw [blockFrom.eq_3 _ _ _ no_close no_escape] at read
    obtain ⟨r, tail_read, rfl⟩ := map_eq_ok_iff.1 read
    obtain ⟨le, same⟩ := ih tail_read
    rw [List.cons_append, blockFrom.eq_3]
    · refine ⟨?_, map_eq_ok_iff.2 ⟨r, same, rfl⟩⟩
      rw [List.length_cons]
      dsimp only
      omega
    · intro tail quote eq
      obtain ⟨more, rfl⟩ := exists_eq_append_of_newline ['"', '"'] (by decide) eq
      exact no_close more quote rfl
    · intro tail backslash eq
      obtain ⟨more, rfl⟩ := exists_eq_append_of_newline ['"', '"', '"'] (by decide) eq
      exact no_escape more backslash rfl
  | case4 offset => cases read

/-! ## Steps -/

/-- If whatever is read in one way is read in another, so are their steps. -/
lemma ofResult_eq_lexeme {x y : Except (FaultCause × Nat) (Lexeme × Nat)} {room more : Nat}
    {l : Lexeme} (same : ∀ {r}, x = .ok r → r.2 ≤ room + 1 ∧ y = .ok r)
    (read : Step.ofResult x = .lexeme l more) :
    more ≤ room ∧ Step.ofResult y = .lexeme l more := by
  cases x with
  | error e => cases read
  | ok r =>
    obtain ⟨le, rfl⟩ := same rfl
    cases read
    exact ⟨by omega, rfl⟩

/-- Two quotes come next just if they do so without what is behind the line end. -/
lemma take_two_eq_quotes_iff :
    (cs ++ '\n' :: note).take 2 = ['"', '"'] ↔ cs.take 2 = ['"', '"'] := by
  match cs with
  | [] => simp
  | [_] => simp
  | _ :: _ :: _ => simp

/-- A lexeme is the same in front of a line end. -/
lemma step_lexeme_append {c : Char} {l : Lexeme} {more : Nat} (read : step c cs = .lexeme l more) :
    more ≤ cs.length ∧ step c (cs ++ '\n' :: note) = .lexeme l more := by
  unfold step at read ⊢
  simp only [take_two_eq_quotes_iff]
  split_ifs at read ⊢ with _ _ _ _ quotes
  · -- a comment
    rw [takeWhile_append_newline (by decide)]
    cases read
    exact ⟨(List.takeWhile_sublist _).length_le, rfl⟩
  · -- a block string
    refine ofResult_eq_lexeme (fun read => ?_) read
    obtain ⟨r, block, rfl⟩ := map_eq_ok_iff.1 read
    obtain ⟨le, same⟩ := blockFrom_append note block
    have two : ((cs.take 2)).length = 2 := by rw [quotes]; rfl
    rw [List.length_take] at two
    rw [List.length_drop] at le
    rw [List.drop_append_of_le_length (by omega)]
    exact ⟨by dsimp only; omega, map_eq_ok_iff.2 ⟨r, same, rfl⟩⟩
  · -- a string
    refine ofResult_eq_lexeme (fun read => ?_) read
    obtain ⟨r, string, rfl⟩ := map_eq_ok_iff.1 read
    obtain ⟨le, same⟩ := stringFrom_append note string
    exact ⟨by dsimp only; omega, map_eq_ok_iff.2 ⟨r, same, rfl⟩⟩
  · -- three points
    split at read
    · cases read
      exact ⟨by simp, rfl⟩
    · cases read
    · split at read <;> cases read
    · cases read
  · exact ofResult_eq_lexeme (number_append note) read
  · -- a name
    rw [takeWhile_append_newline (by decide)]
    cases read
    exact ⟨(List.takeWhile_sublist _).length_le, rfl⟩
  all_goals
    -- a punctuator
    cases punct : Punct.ofChar? c with
    | none => simp [punct] at read
    | some p =>
      simp only [punct, Step.lexeme.injEq] at read ⊢
      exact ⟨by omega, read⟩

end SchemaLint.Sdl

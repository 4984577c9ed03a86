import Mathlib
import SchemaLint.Proofs.Outcome
import SchemaLint.Sdl.Lexer

/-!
# The characters of lexemes

A lexeme that is no block string takes characters of one line only: it is read within the room that
is left on the line. Each reader of a part of a lexeme is shown to keep within that room. A comment
takes all of it. A block string ends with its closing quotes.
-/

namespace SchemaLint.Sdl

variable {cs rest ds : List Char} {c : Char}

/-! ## The rest of a line -/

/-- The character ends a line, alone or with another. -/
def endsLine (c : Char) : Bool := c == '\n' || c == '\r'

/-- Lines end with a line feed or a carriage return. -/
lemma endsLine_iff : endsLine c ↔ c = '\n' ∨ c = '\r' := by
  rw [endsLine, Bool.or_eq_true, beq_iff_eq, beq_iff_eq]

/-- No other character ends a line. -/
lemma endsLine_eq_false_iff : endsLine c = false ↔ ¬(c = '\n' ∨ c = '\r') := by
  rw [← endsLine_iff, Bool.not_eq_true]

/-- The number of characters in front of the first that ends a line. -/
def lineRoom (cs : List Char) : Nat := (cs.takeWhile (!endsLine ·)).length

/-- A character that does not end the line takes room in it. -/
lemma lineRoom_cons (goes_on : endsLine c = false) : lineRoom (c :: cs) = lineRoom cs + 1 := by
  rw [lineRoom, List.takeWhile_cons_of_pos (by simp [goes_on]), List.length_cons, lineRoom]

/-- Where there is room in the line, it does not end at once. -/
lemma goes_on_of_pos (pos : 0 < lineRoom (c :: cs)) : endsLine c = false := by
  cases ends : endsLine c with
  | false => rfl
  | true =>
    rw [lineRoom, List.takeWhile_cons_of_neg (by simp [ends])] at pos
    cases pos

/-- What is taken of a line leaves the rest of the room. -/
lemma lineRoom_drop {n : Nat} (le : n ≤ lineRoom cs) : lineRoom (cs.drop n) + n = lineRoom cs := by
  induction n generalizing cs with
  | zero => rfl
  | succ n ih =>
    cases cs with
    | nil => cases le
    | cons c cs =>
      have goes_on : endsLine c = false := goes_on_of_pos (Nat.lt_of_lt_of_le n.succ_pos le)
      rw [lineRoom_cons goes_on] at le ⊢
      rw [List.drop_succ_cons, ← Nat.add_assoc, ih (Nat.le_of_succ_le_succ le)]

/-- Characters within the room of a line do not end it. -/
lemma goes_on_of_mem_take {n : Nat} (le : n ≤ lineRoom cs) : ∀ d ∈ cs.take n, endsLine d = false := by
  induction n generalizing cs with
  | zero => simp
  | succ n ih =>
    cases cs with
    | nil => simp
    | cons c cs =>
      have goes_on : endsLine c = false := goes_on_of_pos (Nat.lt_of_lt_of_le n.succ_pos le)
      rw [lineRoom_cons goes_on] at le
      rw [List.take_succ_cons, List.forall_mem_cons]
      exact ⟨goes_on, ih (Nat.le_of_succ_le_succ le)⟩

/-- Characters of a class without line ends find room in the line. -/
lemma length_takeWhile_le_lineRoom {p : Char → Bool} (inside : ∀ d, p d → endsLine d = false) :
    (cs.takeWhile p).length ≤ lineRoom cs := by
  induction cs with
  | nil => exact le_rfl
  | cons c cs ih =>
    cases taken : p c with
    | false => rw [List.takeWhile_cons_of_neg (by simp [taken])]; exact Nat.zero_le _
    | true =>
      rw [List.takeWhile_cons_of_pos taken, lineRoom_cons (inside c taken), List.length_cons]
      exact Nat.succ_le_succ ih

/-- A class without the two line ends does not end lines. -/
lemma goes_on_of_class {p : Char → Bool} (line_feed : p '\n' = false)
    (carriage_return : p '\r' = false) (d : Char) (mem : p d) : endsLine d = false := by
  rw [endsLine_eq_false_iff]
  rintro (rfl | rfl)
  · rw [line_feed] at mem
    cases mem
  · rw [carriage_return] at mem
    cases mem

/-- There is room for a first character that does not end the line. -/
lemma one_le_lineRoom (head : cs.head? = some c) (goes_on : endsLine c = false) :
    1 ≤ lineRoom cs := by
  obtain ⟨rest, rfl⟩ := List.head?_eq_some_iff.1 head
  rw [lineRoom_cons goes_on]
  exact Nat.le_add_left 1 _

/-- There is room for one more character that does not end the line. -/
lemma succ_le_lineRoom {k : Nat} (le : k ≤ lineRoom cs) (next : cs[k]? = some c)
    (goes_on : endsLine c = false) : k + 1 ≤ lineRoom cs := by
  have room := lineRoom_drop le
  have next_le := one_le_lineRoom (List.head?_drop.trans next) goes_on
  omega

/-- Behind the room that is known, as many characters as do not end the line are in the room. -/
lemma add_le_lineRoom {k n : Nat} (le : k ≤ lineRoom cs) (long : ((cs.drop k).take n).length = n)
    (inside : ∀ d ∈ (cs.drop k).take n, endsLine d = false) : k + n ≤ lineRoom cs := by
  have room := lineRoom_drop le
  have taken : n ≤ lineRoom (cs.drop k) := by
    rw [← List.take_append_drop n (cs.drop k), lineRoom,
      List.takeWhile_append_of_pos fun d mem => by simp [inside d mem], List.length_append, long]
    exact Nat.le_add_right n _
  omega

/-! ## Numbers -/

/-- Digits find room in the line. -/
lemma leadingDigits_le {offset : Nat} (read : leadingDigits offset cs = .ok ds) :
    ds.length ≤ lineRoom cs := by
  rw [leadingDigits] at read
  split at read
  · cases read
  · cases read
    exact length_takeWhile_le_lineRoom (goes_on_of_class (by decide) (by decide))

/-- The part of a number behind its point finds room in the line. -/
lemma fractionPart_le {offset n : Nat} (read : fractionPart offset cs = .ok n) :
    n ≤ lineRoom cs := by
  unfold fractionPart at read
  split at read
  · obtain ⟨ds, digits, rfl⟩ := map_eq_ok_iff.1 read
    rw [lineRoom_cons (by decide)]
    exact Nat.succ_le_succ (leadingDigits_le digits)
  · cases read
    exact Nat.zero_le _

/-- The exponent of a number finds room in the line. -/
lemma exponentPart_le {offset n : Nat} (read : exponentPart offset cs = .ok n) :
    n ≤ lineRoom cs := by
  cases cs with
  | nil =>
    cases read
    exact le_rfl
  | cons c rest =>
    unfold exponentPart at read
    dsimp only at read
    split at read
    · rename_i mark
      obtain ⟨ds, digits, rfl⟩ := map_eq_ok_iff.1 read
      have goes_on : endsLine c = false := by rcases mark with rfl | rfl <;> rfl
      generalize sign_eq :
        (if rest.head? = some '+' ∨ rest.head? = some '-' then 1 else 0) = sign at digits ⊢
      have sign_le : sign ≤ lineRoom rest := by
        subst sign_eq
        split
        · rename_i sign
          rcases sign with plus | minus
          · exact one_le_lineRoom plus rfl
          · exact one_le_lineRoom minus rfl
        · exact Nat.zero_le _
      have room := lineRoom_drop sign_le
      have digits_le := leadingDigits_le digits
      rw [lineRoom_cons goes_on]
      omega
    · cases read
      exact Nat.zero_le _

/-- The part of a number in front of its point finds room in the line. -/
lemma wholePart_le {n : Nat} (read : wholePart cs = .ok n) : n ≤ lineRoom cs := by
  unfold wholePart at read
  dsimp only at read
  generalize sign_eq : (if cs.head? = some '-' then 1 else 0) = sign at read
  have sign_le : sign ≤ lineRoom cs := by
    subst sign_eq
    split
    · rename_i minus
      exact one_le_lineRoom minus rfl
    · exact Nat.zero_le _
  have room := lineRoom_drop sign_le
  split at read
  · rename_i zero
    have zero_le := one_le_lineRoom zero rfl
    split at read
    · split at read
      · cases read
      · cases read
        omega
    · cases read
      omega
  · obtain ⟨ds, digits, eq⟩ := bind_eq_ok_iff.1 read
    cases eq
    have digits_le := leadingDigits_le digits
    omega

/-- A number that is read has its three parts one behind the other. -/
lemma number_parts {r : Lexeme × Nat} (read : number cs = .ok r) :
    ∃ whole fraction exponent, wholePart cs = .ok whole ∧
      fractionPart whole (cs.drop whole) = .ok fraction ∧
      exponentPart (whole + fraction) (cs.drop (whole + fraction)) = .ok exponent ∧
      let size := whole + fraction + exponent
      let text := String.ofList (cs.take size)
      r = (if fraction + exponent = 0 then .int text else .float text, size) := by
  unfold number at read
  obtain ⟨whole, whole_read, read⟩ := bind_eq_ok_iff.1 read
  obtain ⟨fraction, fraction_read, read⟩ := bind_eq_ok_iff.1 read
  obtain ⟨exponent, exponent_read, read⟩ := bind_eq_ok_iff.1 read
  refine ⟨whole, fraction, exponent, whole_read, fraction_read, exponent_read, ?_⟩
  dsimp only at read
  split at read
  · split at read
    · cases read
    · cases read
      rfl
  · cases read
    rfl

/-- A number finds room in the line. -/
lemma number_le {r : Lexeme × Nat} (read : number cs = .ok r) : r.2 ≤ lineRoom cs := by
  obtain ⟨whole, fraction, exponent, whole_read, fraction_read, exponent_read, rfl⟩ :=
    number_parts read
  have whole_le := wholePart_le whole_read
  have whole_room := lineRoom_drop whole_le
  have fraction_le := fractionPart_le fraction_read
  have both_le : whole + fraction ≤ lineRoom cs := by omega
  have both_room := lineRoom_drop both_le
  have exponent_le := exponentPart_le exponent_read
  dsimp only
  omega

/-! ## Strings -/

/-- A hexadecimal digit does not end the line. -/
lemma goes_on_of_digit? {d : Char} {n : Nat} (digit : Text.Hex.digit? d = some n) :
    endsLine d = false :=
  goes_on_of_class (p := fun c => (Text.Hex.digit? c).isSome) (by decide) (by decide) d
    (by rw [digit]; rfl)

/-- An escape with braces finds room in the line, by induction on its characters. -/
lemma bracedEscape_le {seen point room : Nat} {r : Nat × Nat}
    (read : bracedEscape seen point room cs = .ok r) : r.2 ≤ seen + lineRoom cs := by
  induction room generalizing seen point cs with
  | zero => cases read
  | succ room ih =>
    cases cs with
    | nil => cases read
    | cons c rest =>
      rw [bracedEscape] at read
      split at read
      · rename_i close
        subst close
        split at read
        · cases read
          rw [lineRoom_cons rfl]
          dsimp only
          omega
        · cases read
      · cases digit : Text.Hex.digit? c with
        | none => simp [digit] at read
        | some d =>
          rw [digit] at read
          have le := ih read
          rw [lineRoom_cons (goes_on_of_digit? digit)]
          omega

/-- The digits of a hexadecimal number do not end the line. -/
lemma goes_on_of_value? {n : Nat} (value : Text.Hex.value? cs = some n) :
    ∀ d ∈ cs, endsLine d = false := by
  rw [Text.Hex.value?] at value
  generalize 0 = read at value
  induction cs generalizing read with
  | nil => exact nofun
  | cons c cs ih =>
    rw [List.foldlM_cons] at value
    obtain ⟨more, digit, value⟩ := Option.bind_eq_some_iff.1 value
    obtain ⟨d, digit, -⟩ := Option.map_eq_some_iff.1 digit
    rw [List.forall_mem_cons]
    exact ⟨goes_on_of_digit? digit, ih more value⟩

/-- An escape of four digits finds room in the line, and so does a pair of them. -/
lemma fixedEscape_le {r : Nat × Nat} (begun : 2 ≤ lineRoom cs) (read : fixedEscape cs = some r) :
    r.2 ≤ lineRoom cs := by
  unfold fixedEscape at read
  dsimp only at read
  obtain ⟨high, high_read, read⟩ := Option.bind_eq_some_iff.1 read
  obtain ⟨high_long, high_read⟩ := Option.ite_none_right_eq_some.1 high_read
  have high_le : 6 ≤ lineRoom cs := add_le_lineRoom begun high_long (goes_on_of_value? high_read)
  by_cases scalar : isScalar high
  · rw [if_pos scalar] at read
    cases read
    exact high_le
  · rw [if_neg scalar] at read
    split at read
    · cases read
    · rename_i pair
      have escape_eq : (cs.drop 6).take 2 = ['\\', 'u'] := not_not.1 (not_or.1 pair).2
      have escape_le : 8 ≤ lineRoom cs := add_le_lineRoom (n := 2) high_le (by rw [escape_eq]; rfl)
        (by simp [escape_eq, endsLine])
      obtain ⟨low, low_read, read⟩ := Option.bind_eq_some_iff.1 read
      obtain ⟨low_long, low_read⟩ := Option.ite_none_right_eq_some.1 low_read
      have low_le : 12 ≤ lineRoom cs := add_le_lineRoom escape_le low_long (goes_on_of_value? low_read)
      obtain ⟨-, eq⟩ := Option.ite_none_right_eq_some.1 read
      rw [← Option.some.inj eq]
      exact low_le

/-- An escape finds room in the line. -/
lemma escape_le {r : Char × Nat} (goes_on : endsLine c = false) (read : escape (c :: rest) = .ok r) :
    r.2 ≤ lineRoom (c :: rest) := by
  have first : 1 ≤ lineRoom (c :: rest) := one_le_lineRoom rfl goes_on
  unfold escape at read
  split at read
  · rename_i second third
    have begun : 3 ≤ lineRoom (c :: rest) :=
      succ_le_lineRoom (succ_le_lineRoom first second rfl) third rfl
    split at read
    · rename_i braced
      cases read
      have le := bracedEscape_le braced
      have room := lineRoom_drop begun
      dsimp only at le ⊢
      omega
    · cases read
  · rename_i second _
    split at read
    · rename_i fixed
      cases read
      exact fixedEscape_le (succ_le_lineRoom first second rfl) fixed
    · cases read
  case h_11 => cases read
  all_goals
    rename_i second
    cases read
    exact succ_le_lineRoom first second rfl

/-- A string is closed on its line. -/
lemma stringFrom_le {offset skip : Nat} {r : List Char × Nat} (skip_le : skip ≤ lineRoom cs)
    (read : stringFrom offset skip cs = .ok r) : r.2 ≤ offset + lineRoom cs := by
  induction cs generalizing offset skip r with
  | nil => cases skip <;> cases read
  | cons c rest ih =>
    cases skip with
    | succ skip =>
      have goes_on : endsLine c = false := goes_on_of_pos (Nat.lt_of_lt_of_le skip.succ_pos skip_le)
      rw [lineRoom_cons goes_on] at skip_le ⊢
      have le := ih (Nat.le_of_succ_le_succ skip_le) read
      omega
    | zero =>
      rw [stringFrom] at read
      split_ifs at read with quote line_end backslash
      · -- the closing quote
        subst quote
        cases read
        rw [lineRoom_cons rfl]
        dsimp only
        omega
      · -- an escape
        have goes_on : endsLine c = false := by rw [backslash]; rfl
        cases escaped : escape (c :: rest) with
        | error _ =>
          rw [escaped] at read
          cases read
        | ok e =>
          have size_le := escape_le goes_on escaped
          rw [escaped] at read
          obtain ⟨r, tail_read, rfl⟩ := map_eq_ok_iff.1 read
          rw [lineRoom_cons goes_on] at size_le ⊢
          have le := ih (by omega) tail_read
          dsimp only
          omega
      · -- any other character
        obtain ⟨r, tail_read, rfl⟩ := map_eq_ok_iff.1 read
        have le := ih (Nat.zero_le _) tail_read
        rw [lineRoom_cons (endsLine_eq_false_iff.2 line_end)]
        dsimp only
        omega

/-- A block string ends with its closing quotes. -/
lemma blockFrom_ends {offset : Nat} {r : List Char × Nat} (read : blockFrom offset cs = .ok r) :
    ∃ k, r.2 = offset + k ∧ (cs.take k).getLast? = some '"' := by
  induction offset, cs using blockFrom.induct generalizing r with
  | case1 offset tail =>
    cases read
    exact ⟨3, rfl, rfl⟩
  | case2 offset rest ih =>
    obtain ⟨r, tail_read, rfl⟩ := map_eq_ok_iff.1 read
    obtain ⟨k, size, last⟩ := ih tail_read
    refine ⟨k + 4, by dsimp only; omega, ?_⟩
    simp [List.getLast?_cons, last]
  | case3 offset c rest no_close no_escape ih =>
    rw [blockFrom.eq_3 _ _ _ no_close no_escape] at read
    obtain ⟨r, tail_read, rfl⟩ := map_eq_ok_iff.1 read
    obtain ⟨k, size, last⟩ := ih tail_read
    refine ⟨k + 1, by dsimp only; omega, ?_⟩
    simp [List.getLast?_cons, last]
  | case4 offset => cases read

/-! ## Steps -/

/-- A lexeme that is read takes as many characters as were read, of which the first does not
count. -/
lemma exists_of_ofResult {x : Except (FaultCause × Nat) (Lexeme × Nat)} {l : Lexeme} {more : Nat}
    (read : Step.ofResult x = .lexeme l more) : ∃ size, x = .ok (l, size) ∧ more = size - 1 := by
  cases x with
  | error e => cases read
  | ok r =>
    cases read
    exact ⟨r.2, rfl, rfl⟩

/-- The lexeme is a block string, and may go on over many lines. -/
def Lexeme.isBlockString : Lexeme → Bool
  | blockString _ => true
  | _ => false

/-- No lexeme starts with a line end. -/
lemma goes_on_of_step_lexeme {l : Lexeme} {more : Nat} (read : step c rest = .lexeme l more) :
    endsLine c = false := by
  rw [endsLine_eq_false_iff]
  rintro (rfl | rfl)
  · cases read
  · cases read

/-- The lexeme takes the first `more` characters of `rest` behind its first: a comment what is left of
the line, a block string as far as a quote, and any other lexeme a part of the line. -/
def Lexeme.Fits (rest : List Char) (more : Nat) : Lexeme → Prop
  | comment _ => more = lineRoom rest
  | blockString _ => (rest.take more).getLast? = some '"'
  | _ => more ≤ lineRoom rest

/-- Each lexeme takes what it may of the text behind its first character. -/
lemma fits_of_step {l : Lexeme} {more : Nat} (read : step c rest = .lexeme l more) :
    l.Fits rest more := by
  have goes_on : endsLine c = false := goes_on_of_step_lexeme read
  unfold step at read
  split_ifs at read with white carriage_return comment quote quotes point digit name
  · -- a comment
    cases read
    refine congrArg (List.length <| List.takeWhile · rest) (funext fun d => ?_)
    rw [endsLine]
  · -- a block string
    obtain ⟨size, mapped, rfl⟩ := exists_of_ofResult read
    obtain ⟨r, block, eq⟩ := map_eq_ok_iff.1 mapped
    cases eq
    obtain ⟨k, size, last⟩ := blockFrom_ends block
    have more : r.2 - 1 = 2 + k := by omega
    show (rest.take (r.2 - 1)).getLast? = some '"'
    rw [more, List.take_add, List.getLast?_append, last, Option.some_or]
  · -- a string
    obtain ⟨size, mapped, rfl⟩ := exists_of_ofResult read
    obtain ⟨r, string, eq⟩ := map_eq_ok_iff.1 mapped
    cases eq
    have le := stringFrom_le (Nat.zero_le _) string
    exact Nat.sub_le_of_le_add (by rwa [Nat.add_comm])
  · -- three points
    split at read
    · rename_i rest
      cases read
      have le : 2 ≤ lineRoom ('.' :: '.' :: rest) := by
        rw [lineRoom_cons rfl, lineRoom_cons rfl]
        exact Nat.le_add_left _ _
      exact le
    · cases read
    · split at read <;> cases read
    · cases read
  · -- a number
    obtain ⟨size, number, rfl⟩ := exists_of_ofResult read
    have le := number_le number
    rw [lineRoom_cons goes_on] at le
    have le : size - 1 ≤ lineRoom rest := Nat.sub_le_of_le_add le
    obtain ⟨_, fraction, exponent, -, -, -, eq⟩ := number_parts number
    have sort : l = _ := (Prod.ext_iff.1 eq).1
    rw [sort]
    by_cases whole : fraction + exponent = 0
    · rw [if_pos whole]
      exact le
    · rw [if_neg whole]
      exact le
  · -- a name
    cases read
    exact length_takeWhile_le_lineRoom (goes_on_of_class (by decide) (by decide))
  all_goals
    -- a punctuator
    split at read
    · cases read
      exact Nat.zero_le _
    · cases read

/-- A lexeme but a block string takes no line end. -/
lemma step_lexeme_le {l : Lexeme} {more : Nat} (read : step c rest = .lexeme l more)
    (no_block : l.isBlockString = false) : more ≤ lineRoom rest := by
  have room := fits_of_step read
  cases l with
  | comment _ => exact Nat.le_of_eq room
  | blockString _ => cases no_block
  | _ => exact room

end SchemaLint.Sdl

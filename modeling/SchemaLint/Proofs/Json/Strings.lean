import Mathlib
import SchemaLint.Json.Reader

/-!
# Strings of JSON

A string is written in printable characters of ASCII and is read back as it was, whatever its
characters are: `readString_escaped`. A character is written as itself or as an escape, and these two
forms are all that proofs about strings need (`Writes`).
-/

namespace SchemaLint

/-- A character of ASCII that is neither a control character nor a line end. -/
def IsPrintable (c : Char) : Prop := 32 ≤ c.toNat ∧ c.toNat < 127

instance {c : Char} : Decidable (IsPrintable c) :=
  inferInstanceAs (Decidable (32 ≤ c.toNat ∧ c.toNat < 127))

/-! ## Hexadecimal digits -/

namespace Text.Hex

variable {c : Char} {cs : List Char} {d n width : Nat}

/-- A hexadecimal digit that is written is read back. -/
lemma digit?_digitChar (lt : d < 16) : digit? (Nat.digitChar d) = some d := by
  revert d
  decide

/-- A hexadecimal digit is printable. -/
lemma isPrintable_digitChar (lt : d < 16) : IsPrintable (Nat.digitChar d) := by
  revert d
  decide

/-- One more digit counts sixteen times the number in front of it and itself. -/
lemma value?_concat (cs : List Char) (c : Char) :
    value? (cs ++ [c]) = (value? cs).bind fun n => (digit? c).map (16 * n + ·) := by
  simp [value?, List.foldlM_append]

/-- Zeros in front do not count. -/
lemma value?_zeros_append (k : Nat) (cs : List Char) :
    value? (List.replicate k '0' ++ cs) = value? cs := by
  induction k with
  | zero => rfl
  | succ k ih =>
    rw [List.replicate_succ, List.cons_append, ← ih]
    rfl

/-- A hexadecimal number that is written is read back, by strong induction. -/
lemma value?_toDigits (n : Nat) : value? (Nat.toDigits 16 n) = some n := by
  induction n using Nat.strong_induction_on with
  | _ n ih =>
    obtain lt | le := Nat.lt_or_ge n 16
    · have one_digit := value?_concat [] (Nat.digitChar n)
      rw [digit?_digitChar lt] at one_digit
      rw [Nat.toDigits_of_lt_base lt]
      simpa [value?] using one_digit
    · rw [Nat.toDigits_of_base_le (by decide) le, value?_concat, ih (n / 16) (by omega),
        digit?_digitChar (Nat.mod_lt n (by decide)), Option.bind_some, Option.map_some,
        Nat.div_add_mod]

/-- Zeros in front of a hexadecimal number do not matter. -/
lemma value?_padded (width n : Nat) : value? (padded width n) = some n := by
  rw [padded, value?_zeros_append, value?_toDigits]

/-- A number that fits a width has this width with zeros in front. -/
lemma length_padded (pos : 0 < width) (lt : n < 16 ^ width) : (padded width n).length = width := by
  have le := (Nat.length_toDigits_le_iff (by decide) pos).2 lt
  rw [padded, List.length_append, List.length_replicate]
  omega

/-- A hexadecimal number is printable. -/
lemma isPrintable_of_mem_toDigits (mem : c ∈ Nat.toDigits 16 n) : IsPrintable c := by
  induction n using Nat.strong_induction_on with
  | _ n ih =>
    obtain lt | le := Nat.lt_or_ge n 16
    · rw [Nat.toDigits_of_lt_base lt, List.mem_singleton] at mem
      subst mem
      exact isPrintable_digitChar lt
    · rw [Nat.toDigits_of_base_le (by decide) le, List.mem_append, List.mem_singleton] at mem
      obtain mem | rfl := mem
      · exact ih (n / 16) (by omega) mem
      · exact isPrintable_digitChar (Nat.mod_lt n (by decide))

/-- A hexadecimal number with zeros in front is printable. -/
lemma isPrintable_of_mem_padded (mem : c ∈ padded width n) : IsPrintable c := by
  rw [padded, List.mem_append] at mem
  obtain mem | mem := mem
  · rw [List.eq_of_mem_replicate mem]
    decide
  · exact isPrintable_of_mem_toDigits mem

end Text.Hex

namespace Json

/-! ## Escapes -/

/-- The characters stand for `c` in a string: `c` itself, or an escape that is read as `c` whatever
stands behind it. -/
inductive Writes (c : Char) : List Char → Prop
  | plain : IsPrintable c → c ≠ '"' → c ≠ '\\' → Writes c [c]
  | escape {e} : (∀ rest, readEscape (e ++ rest) = some (c, rest)) → (∀ x ∈ e, IsPrintable x) →
    Writes c ('\\' :: e)

variable {c : Char} {cs rest : List Char} {n high low fuel : Nat}

/-- A unit of four digits is read back, whatever comes behind it. -/
lemma readUnit_padded (lt : n < 0x10000) (rest : List Char) :
    readUnit (Text.Hex.padded 4 n ++ rest) = some (n, rest) := by
  have value := Text.Hex.value?_padded 4 n
  obtain ⟨a, b, c, d, digits⟩ := List.length_eq_four.1 (Text.Hex.length_padded (by decide) lt)
  rw [digits] at value ⊢
  simp [readUnit, value]

/-- The escape of a character of the basic plane. -/
lemma readEscape_unit (lt : n < 0x10000) (alone : n < 0xd800 ∨ 0xdc00 ≤ n) (rest : List Char) :
    readEscape ('u' :: Text.Hex.padded 4 n ++ rest) = some (Char.ofNat n, rest) := by
  have not_high : ¬(0xd800 ≤ n ∧ n < 0xdc00) := by omega
  rw [List.cons_append, readEscape, readUnit_padded lt]
  simp [not_high]

/-- The escape of a character beyond the basic plane. -/
lemma readEscape_pair (high_range : 0xd800 ≤ high ∧ high < 0xdc00)
    (low_range : 0xdc00 ≤ low ∧ low < 0xe000) (rest : List Char) :
    readEscape ('u' :: Text.Hex.padded 4 high ++ escapeUnit low ++ rest) =
      some (Char.ofNat (0x10000 + (high - 0xd800) * 0x400 + (low - 0xdc00)), rest) := by
  have front : readUnit (Text.Hex.padded 4 high ++ (escapeUnit low ++ rest)) =
      some (high, escapeUnit low ++ rest) := readUnit_padded (by omega) _
  have back : readUnit (Text.Hex.padded 4 low ++ rest) = some (low, rest) :=
    readUnit_padded (by omega) _
  rw [List.cons_append, List.cons_append, List.append_assoc, readEscape, front]
  simp [high_range, low_range, escapeUnit, back]

/-- The escape of a unit is printable. -/
lemma isPrintable_of_mem_escapeUnit {x : Char} (mem : x ∈ escapeUnit n) : IsPrintable x := by
  rw [escapeUnit, List.mem_cons, List.mem_cons] at mem
  obtain rfl | rfl | mem := mem
  · decide
  · decide
  · exact Text.Hex.isPrintable_of_mem_padded mem

/-- A short escape, one character behind the backslash. -/
lemma writes_short {d : Char} (reads : ∀ rest, readEscape (d :: rest) = some (c, rest))
    (printable : IsPrintable d) : Writes c ['\\', d] :=
  .escape (e := [d]) reads (List.forall_mem_singleton.2 printable)

/-- The escape of a character that is one unit stands for it. -/
lemma writes_unit (lt : c.toNat < 0x10000) : Writes c (escapeUnit c.toNat) := by
  have valid : c.toNat < 0xd800 ∨ 0xdfff < c.toNat ∧ c.toNat < 0x110000 := c.valid
  refine .escape (fun rest => ?_) fun x mem => ?_
  · rw [readEscape_unit lt (by omega), Char.ofNat_toNat]
  · exact isPrintable_of_mem_escapeUnit (List.mem_cons_of_mem _ mem)

/-- The two surrogates hold the upper and the lower ten bits of what exceeds the basic plane. -/
lemma writes_pair (le : 0x10000 ≤ c.toNat) :
    Writes c (escapeUnit (0xd800 + (c.toNat - 0x10000) / 0x400) ++
      escapeUnit (0xdc00 + (c.toNat - 0x10000) % 0x400)) := by
  have valid : c.toNat < 0xd800 ∨ 0xdfff < c.toNat ∧ c.toNat < 0x110000 := c.valid
  have high_range : 0xd800 ≤ 0xd800 + (c.toNat - 0x10000) / 0x400 ∧
      0xd800 + (c.toNat - 0x10000) / 0x400 < 0xdc00 := by omega
  have low_range : 0xdc00 ≤ 0xdc00 + (c.toNat - 0x10000) % 0x400 ∧
      0xdc00 + (c.toNat - 0x10000) % 0x400 < 0xe000 := by omega
  have code : 0x10000 + (0xd800 + (c.toNat - 0x10000) / 0x400 - 0xd800) * 0x400 +
      (0xdc00 + (c.toNat - 0x10000) % 0x400 - 0xdc00) = c.toNat := by omega
  have reads := readEscape_pair high_range low_range
  rw [code, Char.ofNat_toNat] at reads
  refine .escape reads fun x mem => ?_
  obtain mem | mem := List.mem_append.1 mem
  · exact isPrintable_of_mem_escapeUnit (List.mem_cons_of_mem _ mem)
  · exact isPrintable_of_mem_escapeUnit mem

/-- The written form of a character stands for it. -/
lemma writes_escapeChar (c : Char) : Writes c (escapeChar c) := by
  have self : Char.ofNat c.toNat = c := Char.ofNat_toNat c
  unfold escapeChar
  split_ifs with quote backslash feed ret tab back page plain basic
  · subst quote
    exact writes_short (fun _ => rfl) (by decide)
  · subst backslash
    exact writes_short (fun _ => rfl) (by decide)
  · subst feed
    exact writes_short (fun _ => rfl) (by decide)
  · subst ret
    exact writes_short (fun _ => rfl) (by decide)
  · subst tab
    exact writes_short (fun _ => rfl) (by decide)
  · rw [← self, back]
    exact writes_short (fun _ => rfl) (by decide)
  · rw [← self, page]
    exact writes_short (fun _ => rfl) (by decide)
  · exact .plain plain quote backslash
  · exact writes_unit basic
  · exact writes_pair (not_lt.1 basic)

/-! ## Strings -/

/-- What stands for a character is not empty. -/
lemma Writes.length_pos (writes : Writes c cs) : 0 < cs.length := by
  cases writes with
  | plain => exact Nat.one_pos
  | escape => exact Nat.succ_pos _

/-- What stands for a character is printable. -/
lemma Writes.isPrintable (writes : Writes c cs) : ∀ x ∈ cs, IsPrintable x := by
  cases writes with
  | plain printable => exact List.forall_mem_singleton.2 printable
  | escape _ printable => exact List.forall_mem_cons.2 ⟨by decide, printable⟩

/-- What stands for a character is read as it, whatever comes behind. -/
lemma Writes.readString_append (writes : Writes c cs) (fuel : Nat) (rest : List Char) :
    readString (fuel + 1) (cs ++ rest) =
      (readString fuel rest).map fun (ds, rest) => (c :: ds, rest) := by
  cases writes with
  | plain _ quote backslash =>
    rw [List.singleton_append, readString, if_neg quote, if_neg backslash]
    cases readString fuel rest with
    | none => rfl
    | some _ => rfl
  | escape reads _ =>
    rw [List.cons_append, readString, if_neg (by decide), if_pos rfl, reads]
    simp only [Option.bind_eq_bind, Option.bind_some]
    cases readString fuel rest with
    | none => rfl
    | some _ => rfl

/-- The characters of a string, written one after the other, are read back up to the quote. -/
lemma readString_escaped (le : cs.length < fuel) (rest : List Char) :
    readString fuel (cs.flatMap escapeChar ++ '"' :: rest) = some (cs, rest) := by
  induction cs generalizing fuel with
  | nil =>
    cases fuel with
    | zero => contradiction
    | succ fuel => rw [List.flatMap_nil, List.nil_append, readString, if_pos rfl]
  | cons c cs ih =>
    cases fuel with
    | zero => contradiction
    | succ fuel =>
      rw [List.flatMap_cons, List.append_assoc, (writes_escapeChar c).readString_append,
        ih (Nat.lt_of_succ_lt_succ le), Option.map_some]

/-- A text is not shorter in its written form. -/
lemma length_le_length_escaped (cs : List Char) : cs.length ≤ (cs.flatMap escapeChar).length := by
  induction cs with
  | nil => exact le_rfl
  | cons c cs ih =>
    have pos := (writes_escapeChar c).length_pos
    rw [List.flatMap_cons, List.length_append, List.length_cons]
    omega

/-- A quoted text is printable. -/
lemma isPrintable_of_mem_quote {s : String} {x : Char} (mem : x ∈ quote s) : IsPrintable x := by
  rw [quote, List.mem_append, List.mem_cons, List.mem_singleton, List.mem_flatMap] at mem
  obtain (rfl | ⟨c, -, mem⟩) | rfl := mem
  · decide
  · exact (writes_escapeChar c).isPrintable x mem
  · decide

end Json

end SchemaLint

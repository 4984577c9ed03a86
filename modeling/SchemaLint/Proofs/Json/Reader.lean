import Mathlib
import SchemaLint.Json.Printer
import SchemaLint.Proofs.Json.Strings

/-!
# Reading of what was printed

A value without numbers is read back from both its layouts: `read?_compact`, `read?_indented`. That a
text is read as something, whatever stands behind it (`Reads`), is kept when texts are put together as
the grammar of JSON does it, with any blanks between them; the two layouts are two ways to do so.
-/

namespace SchemaLint.Json

/-- The value and its parts are no numbers. -/
inductive IsTextual : Json → Prop
  | null : IsTextual .null
  | bool {b} : IsTextual (.bool b)
  | str {s} : IsTextual (.str s)
  | arr {xs} : (∀ x ∈ xs, IsTextual x) → IsTextual (.arr xs)
  | obj {ms} : (∀ m ∈ ms, IsTextual m.2) → IsTextual (.obj ms)

/-- The characters are read as `a`, whatever stands behind them. -/
def Reads {α : Type} (read : Nat → List Char → Option (α × List Char)) (cs : List Char) (a : α) :
    Prop :=
  ∀ (fuel : Nat) (rest : List Char), cs.length ≤ fuel → read fuel (cs ++ rest) = some (a, rest)

/-- The characters may stand between the parts of a value. -/
def isGap (cs : List Char) : Bool := cs.all fun c => c == ' ' || c == '\n' || c == '\r' || c == '\t'

variable {x : Json} {xs : List Json} {m : String × Json} {ms : List (String × Json)}
  {c : Char} {cs ds gap : List Char}

/-! ## Blanks -/

/-- Nothing is a gap. -/
lemma isGap_nil : isGap [] := rfl

/-- A gap in front is passed over. -/
lemma skipBlanks_append (gaps : isGap gap) (cs : List Char) :
    skipBlanks (gap ++ cs) = skipBlanks cs :=
  List.dropWhile_append_of_pos (List.all_eq_true.1 gaps)

/-- What is no blank is not passed over. -/
lemma skipBlanks_cons (no_gap : isGap [c] = false) (cs : List Char) :
    skipBlanks (c :: cs) = c :: cs := by
  rw [isGap, List.all_cons, List.all_nil, Bool.and_true, ← Bool.not_eq_true] at no_gap
  exact List.dropWhile_cons_of_neg no_gap

/-- Behind blanks that are passed over are no more of them. -/
lemma skipBlanks_skipBlanks (cs : List Char) : skipBlanks (skipBlanks cs) = skipBlanks cs :=
  List.dropWhile_idempotent _ cs

/-- Blanks in front of a value do not matter. -/
lemma readValue_skipBlanks (fuel : Nat) (cs : List Char) :
    readValue fuel (skipBlanks cs) = readValue fuel cs := by
  cases fuel with
  | zero => rw [readValue, readValue]
  | succ fuel => rw [readValue, readValue, skipBlanks_skipBlanks]

/-- Blanks in front of a member do not matter. -/
lemma readMember_skipBlanks (fuel : Nat) (cs : List Char) :
    readMember fuel (skipBlanks cs) = readMember fuel cs := by
  cases fuel with
  | zero => rw [readMember, readMember]
  | succ fuel => rw [readMember, readMember, skipBlanks_skipBlanks]

/-- Blanks in front of further elements do not matter. -/
lemma readElements_skipBlanks (fuel : Nat) (cs : List Char) :
    readElements fuel (skipBlanks cs) = readElements fuel cs := by
  cases fuel with
  | zero => rw [readElements, readElements]
  | succ fuel => rw [readElements, readElements, skipBlanks_skipBlanks]

/-- Blanks in front of further members do not matter. -/
lemma readMembers_skipBlanks (fuel : Nat) (cs : List Char) :
    readMembers fuel (skipBlanks cs) = readMembers fuel cs := by
  cases fuel with
  | zero => rw [readMembers, readMembers]
  | succ fuel => rw [readMembers, readMembers, skipBlanks_skipBlanks]

section Reads

variable {α : Type} {read : Nat → List Char → Option (α × List Char)} {a : α}

/-- Blanks in front of what is read without regard to them. -/
lemma Reads.gap_append (skips : ∀ fuel cs, read fuel (skipBlanks cs) = read fuel cs)
    (gaps : isGap gap) (reads : Reads read cs a) : Reads read (gap ++ cs) a := by
  intro fuel rest le
  rw [List.length_append] at le
  rw [List.append_assoc, ← skips, skipBlanks_append gaps, skips, reads fuel rest (by omega)]

/-- The first character takes one unit of fuel. -/
lemma reads_cons (reads : ∀ (fuel : Nat) (rest : List Char), cs.length ≤ fuel →
    read (fuel + 1) (c :: (cs ++ rest)) = some (a, rest)) : Reads read (c :: cs) a := by
  intro fuel rest le
  cases fuel with
  | zero => contradiction
  | succ fuel => exact reads fuel rest (Nat.le_of_succ_le_succ le)

end Reads

/-! ## Values without parts -/

/-- The word for null is read as null. -/
lemma reads_null : Reads readValue "null".toList .null := reads_cons fun _ _ _ => rfl

/-- The words for truth values are read as these. -/
lemma reads_bool (b : Bool) : Reads readValue (atom (.bool b)) (.bool b) := by
  cases b with
  | true => exact reads_cons fun _ _ _ => rfl
  | false => exact reads_cons fun _ _ _ => rfl

/-- A string behind its opening quote, with fuel for all that stands there. -/
lemma readString_quote (s : String) (rest : List Char) :
    ∃ behind, quote s ++ rest = '"' :: behind ∧
      readString (behind.length + 1) behind = some (s.toList, rest) := by
  refine ⟨s.toList.flatMap escapeChar ++ '"' :: rest, by simp [quote], readString_escaped ?_ rest⟩
  have le := length_le_length_escaped s.toList
  rw [List.length_append]
  omega

/-- A quoted text is read as the text. -/
lemma reads_str (s : String) : Reads readValue (quote s) (.str s) := by
  intro fuel rest le
  cases fuel with
  | zero => contradiction
  | succ fuel =>
    obtain ⟨behind, text, reads⟩ := readString_quote s rest
    rw [text, readValue, skipBlanks_cons (by decide)]
    simp [reads]

/-! ## Arrays -/

/-- What is read as a value does not start with a closing bracket. -/
lemma Reads.skipBlanks_ne (reads : Reads readValue cs x) (rest ds : List Char) :
    skipBlanks (cs ++ rest) ≠ ']' :: ds := by
  intro closing
  have value := reads _ rest le_rfl
  rw [← readValue_skipBlanks, closing] at value
  cases length : cs.length with
  | zero => simp [length, readValue] at value
  | succ fuel =>
    rw [length, readValue, skipBlanks_cons (by decide)] at value
    simp [readNumber] at value

/-- What is read behind an opening bracket. -/
lemma readValue_bracket (fuel : Nat) (cs : List Char) :
    readValue (fuel + 1) ('[' :: cs) =
      (match skipBlanks cs with
      | ']' :: rest => some (.arr [], rest)
      | rest => do
        let (x, rest) ← readValue fuel rest
        let (xs, rest) ← readElements fuel rest
        some (.arr (x :: xs), rest)) := rfl

/-- Two brackets are read as the empty array. -/
lemma reads_arr_nil : Reads readValue "[]".toList (.arr []) := reads_cons fun _ _ _ => rfl

/-- An array is read as its first element and the further ones. -/
lemma reads_arr_cons (first : Reads readValue cs x) (others : Reads readElements ds xs) :
    Reads readValue ('[' :: (cs ++ ds)) (.arr (x :: xs)) := by
  refine reads_cons fun fuel rest le => ?_
  rw [List.length_append] at le
  have value : readValue fuel (cs ++ (ds ++ rest)) = some (x, ds ++ rest) := first _ _ (by omega)
  have elements : readElements fuel (ds ++ rest) = some (xs, rest) := others _ _ (by omega)
  rw [List.append_assoc, readValue_bracket]
  split
  · rename_i closing
    exact absurd closing (first.skipBlanks_ne _ _)
  · rw [readValue_skipBlanks, value]
    simp [elements]

/-- At a closing bracket there are no further elements. -/
lemma reads_elements_nil : Reads readElements [']'] [] := reads_cons fun _ _ _ => rfl

/-- Behind a comma is one more element. -/
lemma reads_elements_cons (first : Reads readValue cs x) (others : Reads readElements ds xs) :
    Reads readElements (',' :: (cs ++ ds)) (x :: xs) := by
  refine reads_cons fun fuel rest le => ?_
  rw [List.length_append] at le
  have value : readValue fuel (cs ++ (ds ++ rest)) = some (x, ds ++ rest) := first _ _ (by omega)
  have elements : readElements fuel (ds ++ rest) = some (xs, rest) := others _ _ (by omega)
  rw [List.append_assoc, readElements, skipBlanks_cons (by decide)]
  simp [value, elements]

/-! ## Objects -/

/-- A member is read as its key and its value. -/
lemma reads_member (k : String) (reads : Reads readValue cs x) :
    Reads readMember (quote k ++ ':' :: cs) (k, x) := by
  intro fuel rest le
  rw [List.length_append, List.length_cons] at le
  cases fuel with
  | zero => contradiction
  | succ fuel =>
    obtain ⟨behind, text, key⟩ := readString_quote k (':' :: (cs ++ rest))
    have value : readValue fuel (cs ++ rest) = some (x, rest) := reads _ _ (by omega)
    have colon := skipBlanks_cons (c := ':') (by decide) (cs ++ rest)
    rw [List.append_assoc, List.cons_append, text, readMember, skipBlanks_cons (by decide)]
    simp [key, colon, value]

/-- What is read as a member does not start with a closing brace. -/
lemma Reads.member_skipBlanks_ne (reads : Reads readMember cs m) (rest ds : List Char) :
    skipBlanks (cs ++ rest) ≠ '\x7d' :: ds := by
  intro closing
  have member := reads _ rest le_rfl
  rw [← readMember_skipBlanks, closing] at member
  cases length : cs.length with
  | zero => simp [length, readMember] at member
  | succ fuel =>
    rw [length, readMember, skipBlanks_cons (by decide)] at member
    simp at member

/-- What is read behind an opening brace. -/
lemma readValue_brace (fuel : Nat) (cs : List Char) :
    readValue (fuel + 1) ('\x7b' :: cs) =
      (match skipBlanks cs with
      | '\x7d' :: rest => some (.obj [], rest)
      | rest => do
        let (m, rest) ← readMember fuel rest
        let (ms, rest) ← readMembers fuel rest
        some (.obj (m :: ms), rest)) := rfl

/-- Two braces are read as the empty object. -/
lemma reads_obj_nil : Reads readValue ['\x7b', '\x7d'] (.obj []) := reads_cons fun _ _ _ => rfl

/-- An object is read as its first member and the further ones. -/
lemma reads_obj_cons (first : Reads readMember cs m) (others : Reads readMembers ds ms) :
    Reads readValue ('\x7b' :: (cs ++ ds)) (.obj (m :: ms)) := by
  refine reads_cons fun fuel rest le => ?_
  rw [List.length_append] at le
  have member : readMember fuel (cs ++ (ds ++ rest)) = some (m, ds ++ rest) := first _ _ (by omega)
  have members : readMembers fuel (ds ++ rest) = some (ms, rest) := others _ _ (by omega)
  rw [List.append_assoc, readValue_brace]
  split
  · rename_i closing
    exact absurd closing (first.member_skipBlanks_ne _ _)
  · rw [readMember_skipBlanks, member]
    simp [members]

/-- At a closing brace there are no further members. -/
lemma reads_members_nil : Reads readMembers ['\x7d'] [] := reads_cons fun _ _ _ => rfl

/-- Behind a comma is one more member. -/
lemma reads_members_cons (first : Reads readMember cs m) (others : Reads readMembers ds ms) :
    Reads readMembers (',' :: (cs ++ ds)) (m :: ms) := by
  refine reads_cons fun fuel rest le => ?_
  rw [List.length_append] at le
  have member : readMember fuel (cs ++ (ds ++ rest)) = some (m, ds ++ rest) := first _ _ (by omega)
  have members : readMembers fuel (ds ++ rest) = some (ms, rest) := others _ _ (by omega)
  rw [List.append_assoc, readMembers, skipBlanks_cons (by decide)]
  simp [member, members]

/-! ## Layouts -/

section Layouts

variable {print : Json → List Char} {opening between closing : List Char}

/-- Further elements, each with its separator and blanks in front. -/
lemma reads_elements (betweens : isGap between) (closings : isGap closing)
    (all : ∀ x ∈ xs, Reads readValue (print x) x) :
    Reads readElements
      (xs.flatMap (fun x => ',' :: (between ++ print x)) ++ (closing ++ [']'])) xs := by
  induction xs with
  | nil =>
    rw [List.flatMap_nil, List.nil_append]
    exact reads_elements_nil.gap_append readElements_skipBlanks closings
  | cons x xs ih =>
    obtain ⟨first, others⟩ := List.forall_mem_cons.1 all
    rw [List.flatMap_cons, List.append_assoc, List.cons_append]
    exact reads_elements_cons (first.gap_append readValue_skipBlanks betweens) (ih others)

/-- A member with a blank behind its colon. -/
def memberChars (print : Json → List Char) (m : String × Json) : List Char :=
  quote m.1 ++ ':' :: ' ' :: print m.2

/-- A member that has been written is read if its value is. -/
lemma reads_memberChars (reads : Reads readValue (print m.2) m.2) :
    Reads readMember (memberChars print m) m := by
  have value : Reads readValue ([' '] ++ print m.2) m.2 :=
    reads.gap_append readValue_skipBlanks rfl
  exact reads_member m.1 value

/-- Further members, each with its separator and blanks in front. -/
lemma reads_members (betweens : isGap between) (closings : isGap closing)
    (all : ∀ m ∈ ms, Reads readValue (print m.2) m.2) :
    Reads readMembers
      (ms.flatMap (fun m => ',' :: (between ++ memberChars print m)) ++ (closing ++ ['\x7d'])) ms := by
  induction ms with
  | nil =>
    rw [List.flatMap_nil, List.nil_append]
    exact reads_members_nil.gap_append readMembers_skipBlanks closings
  | cons m ms ih =>
    obtain ⟨first, others⟩ := List.forall_mem_cons.1 all
    have member := (reads_memberChars first).gap_append readMember_skipBlanks betweens
    rw [List.flatMap_cons, List.append_assoc, List.cons_append]
    exact reads_members_cons member (ih others)

/-- An array that has been written with gaps is read if all of its elements are. -/
lemma reads_arr (openings : isGap opening) (betweens : isGap between)
    (closings : isGap closing) (all : ∀ y ∈ x :: xs, Reads readValue (print y) y) :
    Reads readValue ('[' :: opening ++ print x ++ xs.flatMap (fun x => ',' :: (between ++ print x)) ++
      closing ++ [']']) (.arr (x :: xs)) := by
  obtain ⟨first, others⟩ := List.forall_mem_cons.1 all
  have reads := reads_arr_cons (first.gap_append readValue_skipBlanks openings)
    (reads_elements betweens closings others)
  simpa using reads

/-- An object that has been written with gaps is read if all of its values are. -/
lemma reads_obj (openings : isGap opening) (betweens : isGap between)
    (closings : isGap closing) (all : ∀ m' ∈ m :: ms, Reads readValue (print m'.2) m'.2) :
    Reads readValue ('\x7b' :: opening ++ memberChars print m ++
      ms.flatMap (fun m => ',' :: (between ++ memberChars print m)) ++ closing ++ ['\x7d'])
      (.obj (m :: ms)) := by
  obtain ⟨first, others⟩ := List.forall_mem_cons.1 all
  have member := (reads_memberChars first).gap_append readMember_skipBlanks openings
  have reads := reads_obj_cons member (reads_members betweens closings others)
  simpa using reads

end Layouts

/-- Further elements on one line come behind commas and blanks. -/
lemma compactElements_eq (xs : List Json) :
    compactElements xs = xs.flatMap fun x => ',' :: ([' '] ++ compactChars x) := by
  induction xs with
  | nil => rfl
  | cons x xs ih => rw [compactElements, ih]; rfl

/-- Further members on one line come behind commas and blanks. -/
lemma compactMembers_eq (ms : List (String × Json)) :
    compactMembers ms = ms.flatMap fun m => ',' :: ([' '] ++ memberChars compactChars m) := by
  induction ms with
  | nil => rfl
  | cons m ms ih => rw [compactMembers, ih]; simp [memberChars]

/-- Further elements on lines of their own come behind commas and line breaks. -/
lemma indentedElements_eq (depth : Nat) (xs : List Json) :
    indentedElements depth xs =
      xs.flatMap fun x => ',' :: (newLine depth ++ indentedChars depth x) := by
  induction xs with
  | nil => rfl
  | cons x xs ih => rw [indentedElements, ih]; simp

/-- Further members on lines of their own come behind commas and line breaks. -/
lemma indentedMembers_eq (depth : Nat) (ms : List (String × Json)) :
    indentedMembers depth ms =
      ms.flatMap fun m => ',' :: (newLine depth ++ memberChars (indentedChars depth) m) := by
  induction ms with
  | nil => rfl
  | cons m ms ih => rw [indentedMembers, ih]; simp [memberChars]

/-- An object on one line is its members between braces. -/
lemma compactChars_obj_cons (m : String × Json) (ms : List (String × Json)) :
    compactChars (.obj (m :: ms)) =
      '\x7b' :: memberChars compactChars m ++ compactMembers ms ++ ['\x7d'] := by
  rw [compactChars]
  simp [memberChars]

/-- A line break with the blanks behind it is a gap. -/
lemma isGap_newLine (depth : Nat) : isGap (newLine depth) := by
  simp [isGap, newLine]

/-- The compact text of a value without numbers is read as the value. -/
lemma reads_compactChars (textual : x.IsTextual) : Reads readValue (compactChars x) x := by
  have blank : isGap [' '] := rfl
  induction textual with
  | null => exact reads_null
  | @bool b => exact reads_bool b
  | @str s => exact reads_str s
  | @arr xs _ ih =>
    cases xs with
    | nil => exact reads_arr_nil
    | cons x xs =>
      have reads := reads_arr isGap_nil blank isGap_nil ih
      rw [compactChars, compactElements_eq]
      simpa using reads
  | @obj ms _ ih =>
    cases ms with
    | nil => exact reads_obj_nil
    | cons m ms =>
      have reads := reads_obj isGap_nil blank isGap_nil ih
      rw [compactChars_obj_cons, compactMembers_eq]
      simpa using reads

/-- The indented text of a value without numbers is read as the value, at any depth. -/
lemma reads_indentedChars (textual : x.IsTextual) (depth : Nat) :
    Reads readValue (indentedChars depth x) x := by
  induction textual generalizing depth with
  | null => exact reads_null
  | @bool b => exact reads_bool b
  | @str s => exact reads_str s
  | @arr xs _ ih =>
    cases xs with
    | nil => exact reads_arr_nil
    | cons x xs =>
      have reads := reads_arr (isGap_newLine (depth + 1)) (isGap_newLine (depth + 1))
        (isGap_newLine depth) fun y mem => ih y mem (depth + 1)
      rw [indentedChars, indentedElements_eq]
      exact reads
  | @obj ms _ ih =>
    cases ms with
    | nil => exact reads_obj_nil
    | cons m ms =>
      have reads := reads_obj (isGap_newLine (depth + 1)) (isGap_newLine (depth + 1))
        (isGap_newLine depth) fun m mem => ih m mem (depth + 1)
      rw [indentedChars, indentedMembers_eq]
      simpa [memberChars] using reads

/-! ## Texts -/

/-- A text that is read as a value, with blanks behind it. -/
lemma Reads.read?_eq (reads : Reads readValue cs x) (gaps : isGap gap) :
    read? (String.ofList (cs ++ gap)) = some x := by
  have none_left : skipBlanks gap = [] := by
    have skipped := skipBlanks_append gaps []
    rwa [List.append_nil] at skipped
  have value := reads (2 * (cs ++ gap).length + 2) gap (by rw [List.length_append]; omega)
  rw [read?, String.length_ofList, String.toList_ofList, value]
  simp [none_left]

/-- A value that is written on one line is read back. -/
lemma read?_compact (textual : x.IsTextual) : read? x.compact = some x := by
  have read := (reads_compactChars textual).read?_eq isGap_nil
  rwa [List.append_nil] at read

/-- A value that is written on several lines is read back, with a line break behind it. -/
lemma read?_indented_line (textual : x.IsTextual) : read? (x.indented ++ "\n") = some x := by
  have line_end : isGap ['\n'] := rfl
  have read := (reads_indentedChars textual 0).read?_eq line_end
  rwa [String.ofList_append] at read

/-- A member is written in printable characters if its value is. -/
lemma isPrintable_of_mem_memberChars {print : Json → List Char}
    (printable : ∀ c ∈ print m.2, IsPrintable c) : ∀ c ∈ memberChars print m, IsPrintable c := by
  have colon : IsPrintable ':' ∧ IsPrintable ' ' := by decide
  rw [memberChars, List.forall_mem_append, List.forall_mem_cons, List.forall_mem_cons]
  exact ⟨fun c => isPrintable_of_mem_quote, colon.1, colon.2, printable⟩

/-- The compact text of a value without numbers holds no line end, nor anything else but printable
characters of ASCII. -/
lemma isPrintable_of_mem_compactChars (textual : x.IsTextual) :
    ∀ c ∈ compactChars x, IsPrintable c := by
  have separator : IsPrintable ',' ∧ IsPrintable ' ' := by decide
  have brackets : IsPrintable '[' ∧ IsPrintable ']' := by decide
  have braces : IsPrintable '\x7b' ∧ IsPrintable '\x7d' := by decide
  induction textual with
  | null => simp [compactChars, atom, IsPrintable]
  | @bool b =>
    cases b with
    | true => simp [compactChars, atom, IsPrintable]
    | false => simp [compactChars, atom, IsPrintable]
  | str => exact fun c => isPrintable_of_mem_quote
  | @arr xs _ ih =>
    cases xs with
    | nil => simpa [compactChars] using brackets
    | cons x xs =>
      obtain ⟨first, others⟩ := List.forall_mem_cons.1 ih
      rw [compactChars, compactElements_eq]
      simp only [List.forall_mem_append, List.forall_mem_cons, List.forall_mem_flatMap]
      exact ⟨⟨⟨brackets.1, first⟩, fun y mem => ⟨separator.1, ⟨separator.2, List.forall_mem_nil _⟩,
        others y mem⟩⟩, brackets.2, List.forall_mem_nil _⟩
  | @obj ms _ ih =>
    cases ms with
    | nil => simpa [compactChars] using braces
    | cons m ms =>
      obtain ⟨first, others⟩ := List.forall_mem_cons.1 ih
      rw [compactChars_obj_cons, compactMembers_eq]
      simp only [List.forall_mem_append, List.forall_mem_cons, List.forall_mem_flatMap]
      exact ⟨⟨⟨braces.1, isPrintable_of_mem_memberChars first⟩, fun m mem => ⟨separator.1,
        ⟨separator.2, List.forall_mem_nil _⟩, isPrintable_of_mem_memberChars (others m mem)⟩⟩,
        braces.2, List.forall_mem_nil _⟩

end SchemaLint.Json

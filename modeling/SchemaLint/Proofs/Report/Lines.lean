import Mathlib
import SchemaLint.Report.Lines

/-!
# Lines without their colours

The coloured line of a diagnostic is put together of other parts than its plain line. Without escape
sequences both are the same text, and so are the lines of a report and the line that sums it up, if
the report itself holds no escape character: `Report.strip_coloured`.

What is left of a text without its escape sequences depends on what stands behind it, as a sequence may
start in one text and end in the next. So parts of a line are compared with anything behind them
(`StripsTo`), which is kept when they are put together.
-/

namespace SchemaLint

/-! ## Texts without escape sequences -/

namespace Text.Ansi

/-- The character that starts an escape sequence. -/
def escape : Char := '\x1b'

/-- What stands behind the escape sequence at the front of a text, if there is one. -/
def behindSequence? : List Char → Option (List Char)
  | '\x1b' :: '[' :: cs =>
    match cs.takeWhile Char.isDigit, cs.dropWhile Char.isDigit with
    | _ :: _, 'm' :: rest => some rest
    | _, _ => none
  | _ => none

/-- What stands behind an escape sequence is shorter than the text. -/
lemma length_behindSequence? {cs rest : List Char} (found : behindSequence? cs = some rest) :
    rest.length < cs.length := by
  unfold behindSequence? at found
  split at found
  · rename_i cs
    split at found
    · rename_i behind
      cases found
      have le := (List.dropWhile_suffix (l := cs) Char.isDigit).length_le
      rw [behind] at le
      simp only [List.length_cons] at le ⊢
      omega
    · cases found
  · cases found

/-- The characters of a text without its escape sequences. -/
def stripChars : List Char → List Char
  | [] => []
  | c :: cs =>
    match _ : behindSequence? (c :: cs) with
    | some rest => stripChars rest
    | none => c :: stripChars cs
termination_by cs => cs.length
decreasing_by
  · exact length_behindSequence? ‹_›
  · exact Nat.lt_succ_self _

/-- The text without its escape sequences. -/
def strip (s : String) : String := String.ofList (stripChars s.toList)

/-- The text does not hold the character that starts an escape sequence. -/
def IsPlain (s : String) : Prop := escape ∉ s.toList

instance {s : String} : Decidable (IsPlain s) := inferInstanceAs (Decidable (escape ∉ s.toList))

/-- Whatever stands behind `s`, it is `t` without its escape sequences. -/
def StripsTo (s t : String) : Prop :=
  ∀ rest, stripChars (s.toList ++ rest) = t.toList ++ stripChars rest

variable {s s' t t' : String} {ss : List String}

/-- An escape sequence at the front is left out. -/
lemma stripChars_of_eq_some {cs rest : List Char} (found : behindSequence? cs = some rest) :
    stripChars cs = stripChars rest := by
  cases cs with
  | nil => cases found
  | cons c cs =>
    rw [stripChars]
    split
    · rename_i found'
      rw [found] at found'
      cases found'
      rfl
    · rename_i none
      rw [found] at none
      cases none

/-- Any other character stays. -/
lemma stripChars_cons_of_ne {c : Char} (ne : c ≠ escape) (cs : List Char) :
    stripChars (c :: cs) = c :: stripChars cs := by
  have no_sequence : behindSequence? (c :: cs) = none := by
    unfold behindSequence?
    split
    · rename_i eq
      exact absurd (List.cons.inj eq).1 ne
    · rfl
  rw [stripChars]
  split
  · rename_i found
    rw [no_sequence] at found
    cases found
  · rfl

/-- A number is written in digits. -/
lemma isDigit_of_mem_repr {n : Nat} {c : Char} (mem : c ∈ n.repr.toList) : c.isDigit := by
  rw [Nat.toList_repr] at mem
  exact Nat.isDigit_of_mem_toDigits (by decide) le_rfl mem

/-- An escape sequence ends where it should, whatever comes behind. -/
lemma behindSequence?_sequence (n : Nat) (rest : List Char) :
    behindSequence? ((sequence n).toList ++ rest) = some rest := by
  have text : (sequence n).toList ++ rest = '\x1b' :: '[' :: (n.repr.toList ++ 'm' :: rest) := by
    show ("\x1b[" ++ n.repr ++ "m").toList ++ rest = _
    simp
  have digits (c : Char) (mem : c ∈ n.repr.toList) : c.isDigit = true := isDigit_of_mem_repr mem
  have ne : n.repr.toList ≠ [] := by
    rw [Nat.toList_repr]
    exact Nat.toDigits_ne_nil
  rw [text, behindSequence?, List.takeWhile_append_of_pos digits, List.dropWhile_append_of_pos digits]
  obtain ⟨d, ds, some_digit⟩ := List.exists_cons_of_ne_nil ne
  rw [some_digit]
  rfl

/-! ## Parts of lines -/

/-- What holds whatever comes behind holds if nothing does. -/
lemma StripsTo.strip_eq (strips : StripsTo s t) : strip s = t := by
  have whole := strips []
  rw [List.append_nil, stripChars, List.append_nil] at whole
  rw [strip, whole, String.ofList_toList]

/-- Two texts are freed of their escape sequences one after the other. -/
lemma StripsTo.append (strips : StripsTo s t) (strips' : StripsTo s' t') :
    StripsTo (s ++ s') (t ++ t') := by
  intro rest
  rw [String.toList_append, List.append_assoc, strips, strips', String.toList_append,
    List.append_assoc]

/-- A plain text has no escape sequences. -/
lemma IsPlain.stripsTo (plain : IsPlain s) : StripsTo s s := by
  intro rest
  rw [IsPlain] at plain
  generalize s.toList = cs at plain ⊢
  induction cs with
  | nil => rfl
  | cons c cs ih =>
    rw [List.mem_cons, not_or] at plain
    rw [List.cons_append, stripChars_cons_of_ne (Ne.symm plain.1), ih plain.2, List.cons_append]

/-- Nothing is left of an escape sequence. -/
lemma stripsTo_sequence (n : Nat) : StripsTo (sequence n) "" := fun rest =>
  stripChars_of_eq_some (behindSequence?_sequence n rest)

/-- Parts that are put together one after the other. -/
lemma stripsTo_join {α : Type} {f g : α → String} {xs : List α}
    (strips : ∀ x ∈ xs, StripsTo (f x) (g x)) :
    StripsTo (String.join (xs.map f)) (String.join (xs.map g)) := by
  induction xs with
  | nil => exact fun _ => rfl
  | cons x xs ih =>
    obtain ⟨first, others⟩ := List.forall_mem_cons.1 strips
    rw [List.map_cons, List.map_cons, String.join_cons, String.join_cons]
    exact first.append (ih others)

/-- Styles are lost. -/
lemma StripsTo.styled (strips : StripsTo s t) (numbers : List Nat) :
    StripsTo (Ansi.styled numbers s) t := by
  have nothing : String.join (numbers.map fun _ => "") = "" := by
    induction numbers with
    | nil => rfl
    | cons _ _ ih => rw [List.map_cons, String.join_cons, ih, String.empty_append]
  have front := stripsTo_join fun n (_ : n ∈ numbers) => stripsTo_sequence n
  have whole := (front.append strips).append (stripsTo_sequence 0)
  rwa [nothing, String.empty_append, String.append_empty] at whole

/-! ## Plain texts -/

/-- Two plain texts are a plain text. -/
lemma IsPlain.append (plain : IsPlain s) (plain' : IsPlain t) : IsPlain (s ++ t) := by
  rw [IsPlain, String.toList_append, List.mem_append, not_or]
  exact ⟨plain, plain'⟩

/-- Plain texts with a plain one between them are a plain text. -/
lemma IsPlain.intercalate (plain : IsPlain s) (plains : ∀ t ∈ ss, IsPlain t) :
    IsPlain (s.intercalate ss) := by
  induction ss with
  | nil =>
    rw [String.intercalate_nil]
    decide
  | cons t ss ih =>
    obtain ⟨first, others⟩ := List.forall_mem_cons.1 plains
    cases ss with
    | nil =>
      rw [String.intercalate_singleton]
      exact first
    | cons u ss =>
      rw [String.intercalate_cons_cons]
      exact (first.append plain).append (ih others)

/-- A number is plain. -/
lemma isPlain_repr (n : Nat) : IsPlain n.repr := fun mem =>
  absurd (isDigit_of_mem_repr mem) (by decide)

end Text.Ansi

open Text.Ansi

/-! ## The line of a diagnostic -/

/-- The texts that the line of a diagnostic shows. -/
def Diagnostic.shown (d : Diagnostic) : List String :=
  d.message :: d.rule :: d.location.typeName :: d.location.fieldName.toList

namespace Diagnostic

variable {d : Diagnostic}

/-- The name of a severity is plain. -/
lemma isPlain_label (s : Severity) : IsPlain s.label := by
  cases s with
  | error => unfold IsPlain; decide
  | warning => unfold IsPlain; decide

/-- The place of a diagnostic is plain if what its line shows is. -/
lemma isPlain_location (plain : ∀ s ∈ d.shown, IsPlain s) : IsPlain d.location.text := by
  unfold shown at plain
  unfold Location.text
  cases named : d.location.fieldName with
  | none => simpa using plain d.location.typeName
  | some f =>
    have type := plain d.location.typeName (by simp)
    have field := plain f (by simp [named])
    have point : IsPlain "." := by decide
    exact (type.append point).append field

/-- The plain and the coloured line are put together of other parts: in the coloured one the colon
belongs to the severity, and the brackets to what stands between them. -/
lemma stripsTo_coloredText (plain : ∀ s ∈ d.shown, IsPlain s) : StripsTo d.coloredText d.text := by
  have blank : StripsTo " " " " := IsPlain.stripsTo (by decide)
  have colon : IsPlain ":" := by decide
  have round : IsPlain "(" ∧ IsPlain ")" := by decide
  have square : IsPlain "[" ∧ IsPlain "]" := by decide
  have message : IsPlain d.message := plain d.message (by simp [shown])
  have id : IsPlain d.rule := plain d.rule (by simp [shown])
  have severity : IsPlain (d.severity.label ++ ":") := (isPlain_label d.severity).append colon
  have place : IsPlain ("(" ++ d.location.text ++ ")") :=
    (round.1.append (isPlain_location plain)).append round.2
  have rule : IsPlain ("[" ++ d.rule ++ "]") := (square.1.append id).append square.2
  have parts : d.text = d.severity.label ++ ":" ++ " " ++ d.message ++ " " ++
      ("(" ++ d.location.text ++ ")") ++ " " ++ ("[" ++ d.rule ++ "]") := by
    rw [← String.toList_inj]
    simp [text, toString]
  rw [parts]
  exact (((((severity.stripsTo.styled _).append blank).append message.stripsTo).append blank).append
    (place.stripsTo.styled _)).append blank |>.append (rule.stripsTo.styled _)

end Diagnostic

/-! ## The lines of a report -/

namespace Report

/-- The texts of a report that its lines show. -/
def shown (r : Report) : List String := r.source :: r.diagnostics.flatMap (·.shown)

variable {r : Report}

/-- A number of things is plain if the thing is. -/
lemma isPlain_numberOf (n : Nat) {thing : String} (plain : IsPlain thing) :
    IsPlain (numberOf n thing) := by
  have blank : IsPlain " " := by decide
  have plural : IsPlain (if n = 1 then "" else "s") := by
    split
    · decide
    · decide
  exact (((isPlain_repr n).append blank).append plain).append plural

/-- So is a number of things that is left out where it is none. -/
lemma isPlain_counted (n : Nat) {thing : String} (plain : IsPlain thing) :
    ∀ s ∈ if n = 0 then [] else [numberOf n thing], IsPlain s := by
  split
  · exact List.forall_mem_nil _
  · exact List.forall_mem_singleton.2 (isPlain_numberOf n plain)

/-- What sums a report up is numbers and words, whatever the report is. -/
lemma isPlain_summary (r : Report) : IsPlain r.summary := by
  let parts :=
    (if r.errors = 0 then [] else [numberOf r.errors "error"]) ++
    (if r.warnings = 0 then [] else [numberOf r.warnings "warning"])
  have plain : ∀ s ∈ parts, IsPlain s := List.forall_mem_append.2
    ⟨isPlain_counted r.errors (by decide), isPlain_counted r.warnings (by decide)⟩
  have list : IsPlain ("; ".intercalate parts) := IsPlain.intercalate (by decide) plain
  have total : IsPlain (" (" ++ r.total.repr ++ " total)") :=
    (IsPlain.append (by decide) (isPlain_repr _)).append (by decide)
  have found : IsPlain (if parts.isEmpty then "no diagnostics emitted" else
      "; ".intercalate parts ++ (" (" ++ r.total.repr ++ " total)")) := by
    split
    · decide
    · exact list.append total
  have summary_eq : r.summary = if r.suppressed = 0 then _ else _ := rfl
  rw [summary_eq]
  split
  · exact found
  · exact ((found.append (by decide)).append (isPlain_repr _)).append (by decide)

/-- If no text that the lines of a report show holds the escape character, then the coloured lines
without their escape sequences are the plain ones, and so is the line that sums the report up. -/
theorem strip_coloured (r : Report) (plain : ∀ s ∈ r.shown, IsPlain s) :
    strip (r.lines true) = r.lines false ∧
    strip (r.closingLine true) = r.closingLine false := by
  have line_end : StripsTo "\n" "\n" := IsPlain.stripsTo (by decide)
  obtain ⟨source, texts⟩ := List.forall_mem_cons.1 plain
  constructor
  · refine (stripsTo_join fun d mem => ?_).strip_eq
    have shown : ∀ s ∈ d.shown, IsPlain s := fun s mem' =>
      texts s (List.mem_flatMap.2 ⟨d, mem, mem'⟩)
    exact (Diagnostic.stripsTo_coloredText shown).append line_end
  · have colon : IsPlain ": " := by decide
    have line : IsPlain (r.source ++ ": " ++ r.summary) :=
      (source.append colon).append (isPlain_summary r)
    exact (line.stripsTo.styled _).strip_eq

/-- A report whose texts hold what escape sequences are made of besides the escape character. -/
def bracketed : Report :=
  ⟨[⟨"TypeCasing", .error, "[1m\u00e9\n(", ⟨"[0m", none, none, 1, 6⟩, none⟩,
    ⟨"m]", .warning, "", ⟨"Query", some "[", some "31", 0, 0⟩, some "[2m"⟩], 2, "[31m.graphql"⟩

/-- Nothing but the colours is lost of a report with brackets, numbers and line ends. -/
theorem strip_coloured_bracketed :
    (∀ s ∈ bracketed.shown, IsPlain s) ∧
    strip (bracketed.lines true) =
      "error: [1m\u00e9\n( ([0m) [TypeCasing]\nwarning:  (Query.[) [m]]\n" ∧
    strip (bracketed.closingLine true) =
      "[31m.graphql: 1 error; 1 warning (2 total), 2 suppressed" := by
  have plain : ∀ s ∈ bracketed.shown, IsPlain s := by decide +kernel
  obtain ⟨lines, closing⟩ := strip_coloured bracketed plain
  refine ⟨plain, ?_, ?_⟩
  · rw [lines]
    decide +kernel
  · rw [closing]
    decide +kernel

end Report

end SchemaLint

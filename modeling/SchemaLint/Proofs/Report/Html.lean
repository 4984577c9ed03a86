import Mathlib
import SchemaLint.Report.Format

/-!
# Markup of pages

Whatever the texts of a report hold, they reach its page escaped, and what is not escaped is drawn from
a fixed vocabulary. So the characters of the page that open or close a tag or a quoted value depend on
nothing but the number of diagnostics and which of them have a fix: `Report.delimiters_render_html`.
-/

namespace SchemaLint

namespace Text.Markup

/-- The character opens or closes a tag or a quoted value. -/
def isDelimiter (c : Char) : Bool := c = '<' || c = '>' || c = '"'

/-- The characters of a text that open or close a tag or a quoted value, in order. -/
def delimiters (s : String) : List Char := s.toList.filter isDelimiter

variable {s : String}

/-- The delimiters of a text are those of its parts. -/
lemma delimiters_append (s t : String) : delimiters (s ++ t) = delimiters s ++ delimiters t := by
  rw [delimiters, String.toList_append, List.filter_append, delimiters, delimiters]

/-- The delimiters of joined texts are those of the texts. -/
lemma delimiters_join (ss : List String) :
    delimiters (String.join ss) = ss.flatMap delimiters := by
  rw [delimiters, String.toList_join, List.filter_flatMap]
  rfl

/-- A text has no delimiters if none of its characters is one. -/
lemma delimiters_eq_nil_iff : delimiters s = [] ↔ ∀ c ∈ s.toList, isDelimiter c = false := by
  simp only [delimiters, List.filter_eq_nil_iff, Bool.not_eq_true]

/-- The entities that stand for characters of markup. -/
lemma delimiters_entity {entity : String}
    (mem : entity ∈ ["&amp;", "&lt;", "&gt;", "&#39;", "&#34;"]) : delimiters entity = [] := by
  revert entity
  decide +kernel

/-- The written form of a character has no delimiters: one that is no delimiter stays, and all others
become entities. -/
lemma isDelimiter_of_mem_escapeChar {c d : Char} (mem : d ∈ escapeChar c) :
    isDelimiter d = false := by
  unfold escapeChar at mem
  split_ifs at mem with amp less greater quote double
  · exact delimiters_eq_nil_iff.1 (delimiters_entity (by simp)) d mem
  · exact delimiters_eq_nil_iff.1 (delimiters_entity (by simp)) d mem
  · exact delimiters_eq_nil_iff.1 (delimiters_entity (by simp)) d mem
  · exact delimiters_eq_nil_iff.1 (delimiters_entity (by simp)) d mem
  · exact delimiters_eq_nil_iff.1 (delimiters_entity (by simp)) d mem
  · rw [List.mem_singleton.1 mem]
    simp [isDelimiter, less, greater, double]

/-- No text opens or closes anything once it is escaped. -/
@[simp]
lemma delimiters_escape (s : String) : delimiters (escape s) = [] := by
  rw [delimiters_eq_nil_iff, escape, String.toList_ofList]
  intro d mem
  obtain ⟨c, -, mem⟩ := List.mem_flatMap.1 mem
  exact isDelimiter_of_mem_escapeChar mem

/-- A digit is no delimiter. -/
lemma isDelimiter_of_isDigit {c : Char} (digit : c.isDigit = true) : isDelimiter c = false := by
  by_contra delimiter
  simp only [isDelimiter, Bool.not_eq_false, Bool.or_eq_true, decide_eq_true_eq] at delimiter
  obtain (rfl | rfl) | rfl := delimiter
  · cases digit
  · cases digit
  · cases digit

/-- A natural number has no delimiters. -/
lemma delimiters_nat (n : Nat) : delimiters n.repr = [] := by
  rw [delimiters_eq_nil_iff, Nat.toList_repr]
  intro c mem
  exact isDelimiter_of_isDigit (Nat.isDigit_of_mem_toDigits (by decide) le_rfl mem)

/-- A whole number has no delimiters. -/
lemma delimiters_int (n : Int) : delimiters (toString n) = [] := by
  cases n with
  | ofNat n => exact delimiters_nat n
  | negSucc n =>
    show delimiters ("-" ++ (n + 1).repr) = []
    rw [delimiters_append, delimiters_nat]
    rfl

end Text.Markup

namespace Report

open Text.Markup

/-- The head of a page is of the same markup whatever its title is. -/
lemma delimiters_pageHead (title title' : String) :
    delimiters (pageHead title) = delimiters (pageHead title') := by
  unfold pageHead
  simp only [delimiters_append, toString]
  rw [delimiters_escape, delimiters_escape]

/-- The line of a diagnostic has no delimiters. -/
lemma delimiters_line (n : Int) : delimiters (if n = 0 then "" else s!" (line {n})") = [] := by
  split
  · rfl
  · rw [delimiters_append, delimiters_append, delimiters_int]
    rfl

/-- Two diagnostics make cards of the same markup if both or none of them have a fix. -/
lemma delimiters_card {d d' : Diagnostic} (same : d.fix.isSome = d'.fix.isSome) :
    delimiters (card d) = delimiters (card d') := by
  obtain ⟨rule, severity, message, location, fix⟩ := d
  obtain ⟨rule', severity', message', location', fix'⟩ := d'
  have line := delimiters_line location.line
  have line' := delimiters_line location'.line
  cases fix with
  | none =>
    cases fix' with
    | some _ => cases same
    | none =>
      unfold card
      simp only [delimiters_append, toString] at line line' ⊢
      simp only [delimiters_escape, line, line']
  | some fix =>
    cases fix' with
    | none => cases same
    | some fix' =>
      unfold card
      simp only [delimiters_append, toString] at line line' ⊢
      simp only [delimiters_escape, line, line']

/-- Diagnostics have the same delimiters if the same of them propose something. -/
lemma delimiters_cards {ds ds' : List Diagnostic}
    (same : List.Forall₂ (fun d d' => d.fix.isSome = d'.fix.isSome) ds ds') :
    (ds.map card).flatMap delimiters = (ds'.map card).flatMap delimiters := by
  induction same with
  | nil => rfl
  | cons same _ ih =>
    rw [List.map_cons, List.map_cons, List.flatMap_cons, List.flatMap_cons, delimiters_card same,
      ih]

/-- A verdict is one of two words, neither of which is markup in any letter case. -/
lemma delimiters_verdict (v : Verdict) :
    delimiters v.text = [] ∧ delimiters (String.ofList (v.text.toList.map Char.toUpper)) = [] := by
  cases v with
  | pass => decide +kernel
  | fail => decide +kernel

/-- The foot of a page is of the same markup whatever the report is. -/
lemma delimiters_pageFoot (r r' : Report) : delimiters r.pageFoot = delimiters r'.pageFoot := by
  obtain ⟨verdict, shout⟩ := delimiters_verdict r.verdict
  obtain ⟨verdict', shout'⟩ := delimiters_verdict r'.verdict
  unfold pageFoot
  simp only [delimiters_append, toString]
  rw [verdict, verdict', shout, shout', delimiters_escape, delimiters_escape]

/-- The delimiters of a page are those of its head, its title, its diagnostics and its foot. -/
lemma delimiters_page (r : Report) :
    delimiters r.page = delimiters (pageHead r.title) ++
      (delimiters "  <h1>" ++ delimiters "</h1>\n  ") ++
      (r.diagnostics.map card).flatMap delimiters ++ delimiters r.pageFoot := by
  have heading : delimiters s!"  <h1>{escape r.source}</h1>\n  " =
      delimiters "  <h1>" ++ delimiters "</h1>\n  " := by
    simp only [delimiters_append, toString]
    rw [delimiters_escape, List.append_nil]
  rw [page, delimiters_append, delimiters_append, delimiters_append (pageHead r.title), heading,
    delimiters_join]

/-- Two reports with equally many diagnostics, of which those at the same position both have a fix or
both have none, have pages of the same markup, whatever their texts hold. -/
theorem delimiters_render_html (r r' : Report) (color color' : Bool)
    (same : List.Forall₂ (fun d d' => d.fix.isSome = d'.fix.isSome)
      r.diagnostics r'.diagnostics) :
    delimiters (r.render .html color none) = delimiters (r'.render .html color' none) := by
  show delimiters r.page = delimiters r'.page
  rw [delimiters_page, delimiters_page, delimiters_cards same,
    delimiters_pageHead r.title r'.title, delimiters_pageFoot r r']

/-- A report whose texts are full of markup. -/
def hostile : Report :=
  ⟨[⟨"</code>", .error, "<script>alert(\"1\")</script>", ⟨"\"><b", some "&", none, 3, 1⟩, some "<i>"⟩,
    ⟨"\"", .warning, "'\"", ⟨"<", none, none, 0, 0⟩, none⟩], 2, "\"><script>"⟩

/-- A report of plain texts. -/
def harmless : Report :=
  ⟨[⟨"FieldCasing", .warning, "", ⟨"Query", some "a", none, 0, 0⟩, some "b"⟩,
    ⟨"TypeCasing", .warning, "", ⟨"t", none, none, 1, 6⟩, none⟩], 0, "schema.graphql"⟩

/-- The page of a report full of markup is of the same markup as that of a plain one. -/
theorem delimiters_render_html_hostile :
    List.Forall₂ (fun (d d' : Diagnostic) => d.fix.isSome = d'.fix.isSome)
      hostile.diagnostics harmless.diagnostics ∧
    delimiters (hostile.render .html false none) =
      delimiters (harmless.render .html false none) := by
  have same : List.Forall₂ (fun (d d' : Diagnostic) => d.fix.isSome = d'.fix.isSome)
      hostile.diagnostics harmless.diagnostics := .cons rfl (.cons rfl .nil)
  exact ⟨same, delimiters_render_html hostile harmless false false same⟩

end Report

end SchemaLint

import Mathlib
import SchemaLint.Proofs.Suppression.Directive

/-!
# Silencing one rule

Two suppressions silence all diagnostics of one rule and no others: an entry for the rule and the
pattern `*`, and a directive for the whole file that lists the rule.
-/

namespace SchemaLint

/-! ## Patterns -/

namespace Text.Glob

/-- A star matches every text. -/
lemma isMatch_star (text : String) : isMatch "*" text := by
  have steps_eq : steps "*".toList = [.anyText] := rfl
  rw [isMatch, steps_eq, matchSteps]
  induction text.toList with
  | nil => rfl
  | cons c cs ih =>
    rw [List.foldr_cons, matchBehind, List.headD_cons, Bool.or_eq_true]
    exact .inr ih

end Text.Glob

namespace Suppression

/-! ## Directives -/

/-- The line of the last token among some, or of the one before. -/
def lastLine (previous : Nat) : List Sdl.Token → Nat
  | [] => previous
  | t :: ts => lastLine t.position.line ts

/-- The last line of tokens is that of the last of them. -/
lemma lastLine_concat (previous : Nat) (ts : List Sdl.Token) (t : Sdl.Token) :
    lastLine previous (ts ++ [t]) = t.position.line := by
  induction ts generalizing previous with
  | nil => rfl
  | cons _ ts ih => exact ih _

/-- The directives among tokens that go on see only the line of the last token before. -/
lemma ofTokens_append (previous : Nat) (ts ts' : List Sdl.Token) :
    ofTokens previous (ts ++ ts') =
      ofTokens previous ts ++ ofTokens (lastLine previous ts) ts' := by
  induction ts generalizing previous with
  | nil => rfl
  | cons t ts ih =>
    rw [List.cons_append]
    simp only [ofTokens, lastLine, ih]
    split
    · split
      · rfl
      · rfl
    · rfl

/-- The text is the id of a rule as a directive lists it. -/
structure IsId (id : String) : Prop where
  ne_empty : id ≠ ""
  ne_wildcard : id ≠ wildcard
  joined : ∀ c ∈ id.toList, ¬isSeparator c

variable {id : String} (isId : IsId id)
include isId

/-- An id behind a blank is a layout of it. -/
lemma laysOut_of_isId : LaysOut [id] (' ' :: id.toList) := by
  have joined : IsJoined id.toList :=
    ⟨fun eq => isId.ne_empty (String.toList_eq_nil_iff.1 eq), by simpa using isId.joined⟩
  have one : LaysOut [id] id.toList := by
    rw [← List.append_nil id.toList]
    exact .id joined (by simp) .nil
  exact .skip (by decide) one

/-- The directive for a whole file that lists one rule is on one line. -/
lemma ne_newline_of_isId : ∀ c ∈ (" gqlstyle-ignore-file " ++ id).toList, c ≠ '\n' ∧ c ≠ '\r' := by
  have words : ∀ c ∈ " gqlstyle-ignore-file ".toList, c ≠ '\n' ∧ c ≠ '\r' := by simp
  have line_ends : isSeparator '\n' ∧ isSeparator '\r' := by decide +kernel
  intro c mem
  rw [String.toList_append, List.mem_append] at mem
  rcases mem with mem | mem
  · exact words c mem
  · constructor
    · rintro rfl
      exact isId.joined _ mem line_ends.1
    · rintro rfl
      exact isId.joined _ mem line_ends.2

/-- A directive for the whole file with one id is read as such. -/
lemma ofComment?_of_isId :
    Directive.ofComment? (" gqlstyle-ignore-file " ++ id) = some ⟨true, [id]⟩ := by
  have blank : Unicode.isBlank ' ' := by decide
  have is_directive : IsDirective (" gqlstyle-ignore-file " ++ id) true (' ' :: id.toList) := by
    refine ⟨[' '], ?_, List.forall_mem_singleton.2 blank, by rintro c ⟨⟩; exact blank⟩
    rw [String.toList_append]
    rfl
  rw [is_directive.ofComment?_eq, (laysOut_of_isId isId).ruleIds_eq (List.cons_ne_nil id [])]

/-- A directive for the whole file behind all tokens suppresses one more rule. -/
lemma ofTokens_concat_directive (previous : Nat) (tokens : List Sdl.Token) (p : Sdl.Position) :
    ofTokens previous (tokens ++ [⟨.comment (" gqlstyle-ignore-file " ++ id), p⟩]) =
      ofTokens previous tokens ++ [.everywhere [id]] := by
  rw [ofTokens_append]
  simp [ofTokens, ofComment?_of_isId isId, ofDirective]

/-- What is suppressed everywhere for one id is what the rule finds. -/
lemma covers_everywhere (d : Diagnostic) : (everywhere [id]).covers d = (d.rule == id) := by
  simp [covers, listsRule, isId.ne_wildcard.symm, beq_eq_decide]

/-- What is suppressed on every path for one id is what the rule finds. -/
lemma covers_onPath_star (d : Diagnostic) : (onPath "*" [id]).covers d = (d.rule == id) := by
  simp [covers, listsRule, isId.ne_wildcard.symm, beq_eq_decide, Text.Glob.isMatch_star]

end Suppression

end SchemaLint

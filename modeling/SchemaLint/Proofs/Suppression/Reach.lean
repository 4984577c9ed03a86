import Mathlib
import SchemaLint.Lint.Basic
import SchemaLint.Proofs.Sdl.Extent
import SchemaLint.Proofs.Suppression.Book
import SchemaLint.Proofs.Suppression.OneRule

/-!
# The reach of a directive

A directive in a comment silences rules on one line: on its own line if another token starts there in
front of it, and on the next line if none does, whatever else stands in front of it:
`Suppressions.exists_directive`.

A token that is on the line of a directive and does not start there is a block string that was begun
on an earlier line. A directive behind its end is taken for one on a line of its own, and silences the
next line: `Suppressions.directive_behind_block`.

Lines are counted from 1, so the suppressions of a document that was read silence what a book
silences into which it was entered: `Suppression.Book.silences_suppressions`.
-/

namespace SchemaLint

open Sdl (Extent extents extentsFrom)

variable {text source : String} {d : Sdl.Document} {before after : List Extent} {t : Extent}
  {rules : List String} {x : Diagnostic}

/-! ## The token in front -/

namespace Suppression

/-- The token in front of another starts on its line just if any token but a comment does. -/
lemma lastLine_eq_iff (layout : extents text = before ++ t :: after) :
    lastLine 0 (before.map (·.token)) = t.line ↔
      ∃ e ∈ before, e.token.isComment = false ∧ e.line = t.line := by
  have lines := Sdl.pairwise_extentsFrom .start text.toList
  rw [← extents, layout, List.pairwise_append] at lines
  obtain ⟨ordered, -, lines⟩ := lines
  have one_le : 1 ≤ t.line :=
    Sdl.one_le_line_of_mem_extents t (layout ▸ List.mem_append_right _ List.mem_cons_self)
  rcases before.eq_nil_or_concat' with rfl | ⟨front, last, rfl⟩
  · refine iff_of_false (fun eq => ?_) nofun
    rw [← eq] at one_le
    cases one_le
  · have last_mem : last ∈ front ++ [last] := List.mem_append_right _ (List.mem_singleton_self _)
    obtain ⟨le, comment_lt⟩ := lines last last_mem t List.mem_cons_self
    rw [List.map_append, List.map_singleton, lastLine_concat]
    show last.line = t.line ↔ _
    constructor
    · intro eq
      refine ⟨last, last_mem, ?_, eq⟩
      -- a comment in front would be on an earlier line
      cases comment : last.token.isComment with
      | false => rfl
      | true => exact absurd eq (Nat.ne_of_lt (comment_lt comment))
    · rintro ⟨e, mem, -, eq⟩
      rcases List.mem_append.1 mem with mem | mem
      · have ordered := (List.pairwise_append.1 ordered).2.2 e mem last (List.mem_singleton_self _)
        exact le_antisymm le (eq ▸ ordered.1)
      · cases List.mem_singleton.1 mem
        exact eq

/-- What is suppressed on a line is what is found there by the rules that are listed. -/
lemma covers_onLine (line : Nat) :
    (onLine line rules).covers x ↔ x.location.line = line ∧ listsRule rules x.rule := by
  rw [covers, Bool.and_eq_true, beq_iff_eq]

end Suppression

/-! ## The directive -/

namespace Suppressions

open Suppression

/-- The directive of a comment is one of the suppressions of the document. It silences its rules on its
own line if a token but a comment is on that line in front of it, other than a block string that was
begun on an earlier line, and else on the line behind it; and nowhere else. -/
theorem exists_directive {comment : String} (read : Sdl.Document.read text source = .ok d)
    (located : d.origin ≠ none) (layout : extents text = before ++ t :: after)
    (is_comment : t.token.lexeme = .comment comment)
    (directive : Directive.ofComment? comment = some ⟨false, rules⟩) :
    ∃ s, ofDocument d =
        ofTokens 0 (before.map (·.token)) ++ s :: ofTokens t.line (after.map (·.token)) ∧
      ((∃ e ∈ before, e.token.isComment = false ∧ e.Occupies t.line ∧
          (e.token.lexeme.isBlockString → e.line = t.line)) →
        ∀ x, s.covers x ↔ x.location.line = t.line ∧ listsRule rules x.rule) ∧
      ((∀ e ∈ before, e.token.isComment = false → e.Occupies t.line →
          e.token.lexeme.isBlockString ∧ e.line ≠ t.line) →
        ∀ x, s.covers x ↔ x.location.line = t.line + 1 ∧ listsRule rules x.rule) := by
  have mem_of_before (e : Extent) (mem : e ∈ before) : e ∈ extentsFrom .start text.toList := by
    rw [← extents, layout]
    exact List.mem_append_left _ mem
  refine ⟨ofDirective ⟨false, rules⟩ t.line (lastLine 0 (before.map (·.token))), ?_, ?_, ?_⟩
  · rw [ofDocument, Sdl.Document.tokens_of_read read located, layout]
    dsimp only
    rw [List.map_append, ofTokens_append, List.map_cons, ofTokens]
    simp only [is_comment, directive]
    rfl
  · rintro ⟨e, mem, no_comment, occupies, of_block⟩
    have starts : e.line = t.line := by
      cases block : e.token.lexeme.isBlockString with
      | true => exact of_block block
      | false => exact Sdl.line_eq_of_occupies (mem_of_before e mem) occupies block
    have behind := (lastLine_eq_iff layout).2 ⟨e, mem, no_comment, starts⟩
    rw [ofDirective, if_neg Bool.false_ne_true, if_pos behind]
    exact fun x => covers_onLine _
  · intro alone
    have not_behind : lastLine 0 (before.map (·.token)) ≠ t.line := by
      intro behind
      obtain ⟨e, mem, no_comment, starts⟩ := (lastLine_eq_iff layout).1 behind
      have occupies := starts ▸ Sdl.occupies_line (mem_of_before e mem)
      exact (alone e mem no_comment occupies).2 starts
    rw [ofDirective, if_neg Bool.false_ne_true, if_neg not_behind]
    exact fun x => covers_onLine _

/-- A description, a type with a directive behind it, and a directive on a line of its own. -/
def directedTypes : String :=
  "\"\"\"\nA date.\n\"\"\"\nscalar date # gqlstyle-ignore TypeCasing\n# gqlstyle-ignore\nscalar user"

/-- What is read of `directedTypes`. -/
def directedDocument : Sdl.Document where
  definitions := [.type false ⟨"date", ⟨4, 8⟩⟩ .scalar, .type false ⟨"user", ⟨6, 8⟩⟩ .scalar]
  origin := some ⟨"types.graphql", (extents directedTypes).map (·.token)⟩

/-- The first directive of `directedTypes` silences its own line, and the second the line behind it. -/
theorem exists_directive_directedTypes :
    let es := extents directedTypes
    Sdl.Document.read directedTypes "types.graphql" = .ok directedDocument ∧
    (∃ s, ofDocument directedDocument =
        ofTokens 0 ((es.take 3).map (·.token)) ++ s :: ofTokens 4 ((es.drop 4).map (·.token)) ∧
      ∀ x, s.covers x ↔ x.location.line = 4 ∧ listsRule ["TypeCasing"] x.rule) ∧
    (∃ s, ofDocument directedDocument =
        ofTokens 0 ((es.take 4).map (·.token)) ++ s :: ofTokens 5 ((es.drop 5).map (·.token)) ∧
      ∀ x, s.covers x ↔ x.location.line = 6 ∧ listsRule ["*"] x.rule) := by
  intro es
  have read : Sdl.Document.read directedTypes "types.graphql" = .ok directedDocument :=
    toOption_eq_some_iff.1 (by decide +kernel)
  have located : directedDocument.origin ≠ none := nofun
  let trailing : Extent :=
    ⟨⟨.comment " gqlstyle-ignore TypeCasing", ⟨4, 13⟩⟩, "# gqlstyle-ignore TypeCasing".toList⟩
  let alone : Extent := ⟨⟨.comment " gqlstyle-ignore", ⟨5, 1⟩⟩, "# gqlstyle-ignore".toList⟩
  have first : es = es.take 3 ++ trailing :: es.drop 4 := by decide +kernel
  have second : es = es.take 4 ++ alone :: es.drop 5 := by decide +kernel
  have one_rule : Directive.ofComment? " gqlstyle-ignore TypeCasing" = some ⟨false, ["TypeCasing"]⟩ :=
    by decide +kernel
  have all_rules : Directive.ofComment? " gqlstyle-ignore" = some ⟨false, ["*"]⟩ := by decide +kernel
  refine ⟨read, ?_, ?_⟩
  · obtain ⟨s, eq, behind, -⟩ := exists_directive read located first rfl one_rule
    exact ⟨s, eq, behind (by decide +kernel)⟩
  · obtain ⟨s, eq, -, own_line⟩ := exists_directive read located second rfl all_rules
    exact ⟨s, eq, own_line (by decide +kernel)⟩

/-- A directive behind the end of a block string. -/
def behindBlock : String := "\"\"\"\n\"\"\" # gqlstyle-ignore\nscalar date"

/-- What is read of `behindBlock`. -/
def behindBlockDocument : Sdl.Document where
  definitions := [.type false ⟨"date", ⟨3, 8⟩⟩ .scalar]
  origin := some ⟨"date.graphql", (extents behindBlock).map (·.token)⟩

/-- The directive of `behindBlock` is on line 2 behind the end of a block string, but it silences line 3
and not line 2, and so what a linter finds on line 3. -/
theorem directive_behind_block :
    ∃ block directive after, Sdl.Document.read behindBlock "date.graphql" = .ok behindBlockDocument ∧
      extents behindBlock = [block] ++ directive :: after ∧
      (directive.token = ⟨.comment " gqlstyle-ignore", ⟨2, 5⟩⟩ ∧
        Directive.ofComment? " gqlstyle-ignore" = some ⟨false, ["*"]⟩) ∧
      (block.token.isComment = false ∧ block.Occupies directive.line) ∧
      ofDocument behindBlockDocument = [.onLine 3 ["*"]] ∧
      (¬∀ x, (ofDocument behindBlockDocument).silences x ↔
        x.location.line = directive.line ∧ listsRule ["*"] x.rule) ∧
      (Linter.standard .default).lintText behindBlock "date.graphql" =
        .ok ⟨[], 1, "date.graphql"⟩ := by
  have read : Sdl.Document.read behindBlock "date.graphql" = .ok behindBlockDocument :=
    toOption_eq_some_iff.1 (by decide +kernel)
  have reach : ofDocument behindBlockDocument = [.onLine 3 ["*"]] := by decide +kernel
  refine ⟨⟨⟨.blockString "", ⟨1, 1⟩⟩, "\"\"\"\n\"\"\"".toList⟩,
    ⟨⟨.comment " gqlstyle-ignore", ⟨2, 5⟩⟩, "# gqlstyle-ignore".toList⟩,
    (extents behindBlock).drop 2, read, by decide +kernel, ⟨rfl, by decide +kernel⟩,
    by decide +kernel, reach, ?_, toOption_eq_some_iff.1 (by decide +kernel)⟩
  intro on_line
  -- a diagnostic on the line of the type
  have silenced := (on_line ⟨"TypeCasing", .error, "", ⟨"date", none, none, 3, 8⟩, none⟩).1
    (by rw [reach]; decide +kernel)
  cases silenced.1

end Suppressions

/-! ## The book of a text -/

namespace Suppression.Book

/-- For a document that was read, the suppressions of a linter silence what a book silences into which
the document and what the options ignore were entered. -/
theorem silences_suppressions (l : Linter) (read : Sdl.Document.read text source = .ok d)
    (x : Diagnostic) :
    (l.suppressions d).silences x =
      (empty.serveAll (.enterDocument d ::
        l.options.ignore.map fun e => .enterPath e.rule e.pattern)).1.silences x := by
  have document : (empty.serve (.enterDocument d)).1.silences x =
      (Suppressions.ofDocument d).silences x := by
    show (empty.enterDocument d).1.silences x = _
    rw [enterDocument, Suppressions.ofDocument]
    cases located : d.origin with
    | none => exact silences_empty
    | some origin =>
      exact silences_empty_enterTokens 0 (Sdl.Document.line_ne_zero_of_read read located)
  have ignored : (fun e : IgnoreEntry => (empty.serve (.enterPath e.rule e.pattern)).1.silences x) =
      fun e => (onPath e.pattern [e.rule]).covers x :=
    funext fun e => silences_empty_enterPath e.rule e.pattern
  rw [silences_serveAll, silences_empty, Bool.false_or, List.any_cons, document, List.any_map,
    Linter.suppressions, Suppressions.silences, List.any_append, List.any_map]
  exact congrArg _ (congrArg _ ignored.symm)

end Suppression.Book

end SchemaLint

import Mathlib
import SchemaLint.Proofs.Sdl.Lexer
import SchemaLint.Schema.Read

/-!
# Comments behind a text

A comment on a line of its own behind a text adds its token to those of the text and changes nothing
else: the grammar passes over comments, and reads the same definitions.
-/

namespace SchemaLint.Sdl

variable {cs rest body : List Char} {c : Char} {p q : Position} {more : Nat} {l : Lexeme}

/-! ## Tokens -/

/-- A blank is passed over. -/
lemma lexFrom_blank (blank : step c rest = .blank more) :
    lexFrom p (c :: rest) = lexFrom (p.after (c :: rest.take more)) (rest.drop more) := by
  rw [lexFrom]
  simp only [blank]

/-- A lexeme is a token, and more of them come behind it. -/
lemma lexFrom_lexeme (lexeme : step c rest = .lexeme l more) :
    lexFrom p (c :: rest) =
      (lexFrom (p.after (c :: rest.take more)) (rest.drop more)).cons ⟨l, p⟩ := by
  rw [lexFrom]
  simp only [lexeme]

/-- What is read as a lexeme or a fault is no blank. -/
lemma ofResult_ne_blank {x : Except (FaultCause × Nat) (Lexeme × Nat)} :
    Step.ofResult x ≠ .blank more := by
  cases x <;> exact nofun

/-- A blank starts with a white character. -/
lemma white_of_step_blank (read : step c cs = .blank more) :
    (c = ' ' ∨ c = '\t' ∨ c = ',' ∨ c = '\n' ∨ c.toNat = 0xfeff) ∨ c = '\r' := by
  unfold step at read
  split_ifs at read with white carriage_return
  · exact .inl white
  · exact .inr carriage_return
  · exact .inr carriage_return
  · exact absurd read ofResult_ne_blank
  · exact absurd read ofResult_ne_blank
  · -- a point
    split at read
    · cases read
    · cases read
    · split at read <;> cases read
    · cases read
  · exact absurd read ofResult_ne_blank
  · split at read <;> cases read
  · split at read <;> cases read

/-- A blank is the same in front of a line end, unless the two end one line together. -/
lemma step_blank_append (note : List Char) (read : step c cs = .blank more) (apart : c = '\r' → cs ≠ []) :
    more ≤ cs.length ∧ step c (cs ++ '\n' :: note) = .blank more := by
  by_cases white : c = ' ' ∨ c = '\t' ∨ c = ',' ∨ c = '\n' ∨ c.toNat = 0xfeff
  · unfold step at read ⊢
    rw [if_pos white] at read ⊢
    cases read
    exact ⟨Nat.zero_le _, rfl⟩
  · have carriage_return := (white_of_step_blank read).resolve_left white
    unfold step at read ⊢
    rw [if_neg white, if_pos carriage_return] at read ⊢
    cases cs with
    | nil => exact absurd rfl (apart carriage_return)
    | cons d rest =>
      cases read
      refine ⟨?_, rfl⟩
      split <;> simp

section
variable (plain : ∀ c ∈ body, c ≠ '\n' ∧ c ≠ '\r')
include plain

/-- A comment that no line end follows is the last token. -/
lemma exists_lexFrom_comment (p : Position) :
    ∃ q, lexFrom p ('#' :: body) = ⟨[⟨.comment (String.ofList body), p⟩], .endOfFile q⟩ := by
  have all : body.takeWhile (fun d => !(d == '\n' || d == '\r')) = body := by
    rw [List.takeWhile_eq_self_iff]
    intro c mem
    simp [plain c mem]
  have comment : step '#' body = .lexeme (.comment (String.ofList
      (body.takeWhile fun d => !(d == '\n' || d == '\r'))))
      (body.takeWhile fun d => !(d == '\n' || d == '\r')).length := rfl
  rw [all] at comment
  rw [lexFrom_lexeme comment, List.drop_length, lexFrom]
  exact ⟨_, rfl⟩

/-- A comment on a last line is the last token. -/
lemma exists_lexFrom_newline (p : Position) :
    ∃ t q, lexFrom p ('\n' :: '#' :: body) =
      ⟨[⟨.comment (String.ofList body), t⟩], .endOfFile q⟩ := by
  have newline : step '\n' ('#' :: body) = .blank 0 := rfl
  rw [lexFrom_blank newline]
  exact ⟨_, exists_lexFrom_comment plain _⟩

/-- A text that is read to its end has the same tokens with a comment on a line of its own behind
it, and that comment. -/
lemma exists_lexFrom_append (complete : (lexFrom p cs).ending = .endOfFile q) :
    ∃ t q', lexFrom p (cs ++ '\n' :: '#' :: body) =
      ⟨(lexFrom p cs).tokens ++ [⟨.comment (String.ofList body), t⟩], .endOfFile q'⟩ := by
  induction p, cs using lexFrom.induct with
  | case1 p =>
    rw [lexFrom]
    exact exists_lexFrom_newline plain p
  | case2 p c rest more blank ih =>
    rw [lexFrom_blank blank] at complete ⊢
    by_cases apart : c = '\r' → rest ≠ []
    · obtain ⟨le, same⟩ := step_blank_append ('#' :: body) blank apart
      rw [List.cons_append, lexFrom_blank same, List.take_append_of_le_length le,
        List.drop_append_of_le_length le]
      exact ih complete
    · -- the line end belongs to the carriage return
      obtain ⟨rfl, none_left⟩ := Classical.not_imp.1 apart
      rw [not_not.1 none_left, List.drop_nil, lexFrom]
      have both : step '\r' ('\n' :: '#' :: body) = .blank 1 := rfl
      rw [List.singleton_append, lexFrom_blank both]
      exact ⟨_, exists_lexFrom_comment plain _⟩
  | case3 p c rest l more lexeme ih =>
    rw [lexFrom_lexeme lexeme] at complete ⊢
    obtain ⟨le, same⟩ := step_lexeme_append ('#' :: body) lexeme
    obtain ⟨t, q', read⟩ := ih complete
    refine ⟨t, q', ?_⟩
    rw [List.cons_append, lexFrom_lexeme same, List.take_append_of_le_length le,
      List.drop_append_of_le_length le, read]
    rfl
  | case4 p c rest cause offset fault =>
    rw [lexFrom] at complete
    simp [fault] at complete

end

/-! ## Documents -/

namespace Reader

/-- Two readers have a result if the first has one, and the second with that and the tokens behind
it. -/
lemma bind_eq_ok_iff {α β : Type} {r : Reader α} {next : α → Reader β} {fault? : Option Fault}
    {ts : List Token} {b : β × List Token} :
    (r >>= next) fault? ts = .ok b ↔
      ∃ a ts', r fault? ts = .ok (a, ts') ∧ next a fault? ts' = .ok b :=
  SchemaLint.bind_eq_ok_iff.trans Prod.exists

/-- Definitions are not read to the end of a text that has a fault. -/
lemma definitions_ne_ok {f : Fault} {fuel : Nat} {ts : List Token}
    {r : List Definition × List Token} : definitions fuel (some f) ts ≠ .ok r := by
  -- the fault is thrown where the tokens end, if no other is thrown before
  induction fuel generalizing ts r with
  | zero =>
    intro read
    obtain ⟨t, ts', -, thrown⟩ := bind_eq_ok_iff.1 read
    cases thrown
  | succ fuel ih =>
    intro read
    obtain ⟨t, left, next, read⟩ := bind_eq_ok_iff.1 read
    cases ts with
    | nil => cases next
    | cons t ts =>
      cases next
      obtain ⟨_, _, got, read⟩ := bind_eq_ok_iff.1 read
      cases got
      obtain ⟨d, _, -, read⟩ := bind_eq_ok_iff.1 read
      obtain ⟨ds, _, more, -⟩ := bind_eq_ok_iff.1 read
      exact ih more

/-- All definitions of a text are read just if it has no fault behind its tokens. -/
lemma read_definitions_eq_ok_iff {stream : TokenStream} {ds : List Definition} :
    stream.read (do definitions (← bound)) = .ok ds ↔
      (∃ p, stream.ending = .endOfFile p) ∧
        let ts := stream.tokens.filter (!·.isComment)
        ∃ left, definitions (ts.length + 1) none ts = .ok (ds, left) := by
  obtain ⟨tokens, ending⟩ := stream
  cases ending with
  | endOfFile p =>
    have run : (TokenStream.mk tokens (.endOfFile p)).read (do definitions (← bound)) =
        ((definitions ((tokens.filter (!·.isComment)).length + 1) none
          (tokens.filter (!·.isComment))).map (·.1)).mapError (·.placed p) := rfl
    rw [run]
    cases outcome : definitions ((tokens.filter (!·.isComment)).length + 1) none
      (tokens.filter (!·.isComment)) with
    | error f => simp [outcome, Except.map, Except.mapError]
    | ok r => simp [outcome, Except.map, Except.mapError, Prod.ext_iff]
  | fault f =>
    refine iff_of_false (fun read => ?_) (fun complete => ?_)
    · obtain ⟨r, read, -⟩ := map_eq_ok_iff.1 read
      exact definitions_ne_ok read
    · obtain ⟨⟨p, eq⟩, -⟩ := complete
      cases eq

end Reader

namespace Document

variable {d : Document} {text source note : String}

/-- A comment on a line of its own behind a text leaves the definitions as they are, and its token is
the last of the document, if there are any definitions. -/
lemma exists_read_append (plain : ∀ c ∈ note.toList, c ≠ '\n' ∧ c ≠ '\r')
    (accepted : read text source = .ok d) :
    ∃ d', read (text ++ "\n#" ++ note) source = .ok d' ∧ d'.definitions = d.definitions ∧
      (d.definitions = [] ∨ ∃ tokens t, d.origin = some ⟨source, tokens⟩ ∧
        d'.origin = some ⟨source, tokens ++ [⟨.comment note, t⟩]⟩) := by
  have toList : (text ++ "\n#" ++ note).toList = text.toList ++ '\n' :: '#' :: note.toList := by
    simp [String.toList_append]
  rw [read] at accepted
  obtain ⟨ds, definitions, eq⟩ := bind_eq_ok_iff.1 accepted
  cases eq
  obtain ⟨⟨p, complete⟩, left, definitions⟩ := Reader.read_definitions_eq_ok_iff.1 definitions
  obtain ⟨t, q, lexed⟩ := exists_lexFrom_append plain complete
  have lexed : lex (text ++ "\n#" ++ note) =
      ⟨(lex text).tokens ++ [⟨.comment note, t⟩], .endOfFile q⟩ := by
    rw [lex, toList, lexed, String.ofList_toList]
    rfl
  -- the grammar passes over the comment
  have same_tokens : (lex (text ++ "\n#" ++ note)).tokens.filter (!·.isComment) =
      (lex text).tokens.filter (!·.isComment) := by
    rw [lexed]
    simp [List.filter_append, Token.isComment]
  have definitions' : (lex (text ++ "\n#" ++ note)).read
      (do Reader.definitions (← Reader.bound)) = .ok ds := by
    rw [Reader.read_definitions_eq_ok_iff, same_tokens]
    exact ⟨⟨q, by rw [lexed]⟩, left, definitions⟩
  refine ⟨⟨ds, if ds.isEmpty then none else some ⟨source, _⟩⟩,
    bind_eq_ok_iff.2 ⟨ds, definitions', rfl⟩, rfl, ?_⟩
  cases ds with
  | nil => exact .inl rfl
  | cons x ds =>
    refine .inr ⟨(lex text).tokens, t, rfl, ?_⟩
    rw [lexed]
    rfl

/-- A document is that of a schema if nothing in it can be executed. -/
lemma asSchema_eq_ok_iff {d' : Document} :
    asSchema source d' = .ok d ↔ d' = d ∧ d.definitions.find? (·.isExecutable) = none := by
  unfold asSchema
  cases found : d'.definitions.find? (·.isExecutable) with
  | none =>
    constructor
    · rintro ⟨⟩
      exact ⟨rfl, found⟩
    · rintro ⟨rfl, -⟩
      rfl
  | some x =>
    refine iff_of_false nofun ?_
    rintro ⟨rfl, none_found⟩
    rw [found] at none_found
    cases none_found

/-- A text has a schema document if it is read as a document in which nothing can be executed. -/
lemma ofText_eq_ok_iff :
    ofText text source = .ok d ↔
      read text source = .ok d ∧ d.definitions.find? (·.isExecutable) = none := by
  rw [ofText, parse]
  cases read text source with
  | error f => exact iff_of_false nofun nofun
  | ok d' =>
    rw [Except.ok.injEq]
    exact asSchema_eq_ok_iff

/-- A text with a comment on one more line has the same definitions, and the comment behind its
tokens. -/
lemma exists_ofText_append (plain : ∀ c ∈ note.toList, c ≠ '\n' ∧ c ≠ '\r')
    (schema : ofText text source = .ok d) :
    ∃ d', ofText (text ++ "\n#" ++ note) source = .ok d' ∧ d'.definitions = d.definitions ∧
      (d.definitions = [] ∨ ∃ tokens t, d.origin = some ⟨source, tokens⟩ ∧
        d'.origin = some ⟨source, tokens ++ [⟨.comment note, t⟩]⟩) := by
  obtain ⟨accepted, no_executable⟩ := ofText_eq_ok_iff.1 schema
  obtain ⟨d', read, definitions, origins⟩ := exists_read_append plain accepted
  exact ⟨d', ofText_eq_ok_iff.2 ⟨read, definitions ▸ no_executable⟩, definitions, origins⟩

end Document

end SchemaLint.Sdl

import Mathlib
import SchemaLint.Proofs.Schema.TypeRef
import SchemaLint.Proofs.Sdl.Names
import SchemaLint.Proofs.Word.Split

/-!
# Texts of types

The text of a type is read as the type, but for its positions. The lexer cuts the text into the tokens
of the type, whatever follows; the grammar puts these tokens together again. Both go by the type: a
name or a list, and the mark behind it.
-/

namespace SchemaLint.Sdl

/-! ## From characters to tokens -/

section Lexing
variable {c : Char} {cs cs' rest : List Char} {l : Lexeme} {ls ls' : List Lexeme}

/-- In front of the rest, the characters are cut into tokens with the lexemes, wherever they stand. -/
def LexesTo (rest cs : List Char) (ls : List Lexeme) : Prop :=
  ∀ p, ∃ q ts, ts.map (·.lexeme) = ls ∧
    lexFrom p (cs ++ rest) = ⟨ts ++ (lexFrom q rest).tokens, (lexFrom q rest).ending⟩

/-- No characters are no lexemes. -/
lemma LexesTo.nil : LexesTo rest [] [] := fun p => ⟨p, [], rfl, rfl⟩

/-- Characters are cut into tokens one after the other. -/
lemma LexesTo.append (front : LexesTo (cs' ++ rest) cs ls) (back : LexesTo rest cs' ls') :
    LexesTo rest (cs ++ cs') (ls ++ ls') := by
  intro p
  obtain ⟨q, ts, rfl, first⟩ := front p
  obtain ⟨q', ts', rfl, second⟩ := back q
  refine ⟨q', ts ++ ts', List.map_append, ?_⟩
  rw [List.append_assoc, first, second, List.append_assoc]

/-- One step that takes all of the characters. -/
lemma LexesTo.of_step (read : step c (cs ++ rest) = .lexeme l cs.length) :
    LexesTo rest (c :: cs) [l] := by
  intro p
  refine ⟨p.after (c :: (cs ++ rest).take cs.length), [⟨l, p⟩], rfl, ?_⟩
  rw [List.cons_append, lexFrom_lexeme read, List.drop_left]
  rfl

/-- A letter or an underscore starts a name, which ends where no character of a name follows. -/
lemma step_name (first : isNameStart c) :
    step c rest = .lexeme (.name (String.ofList (c :: rest.takeWhile isNameContinue)))
      (rest.takeWhile isNameContinue).length := by
  have char := isNameContinue_of_isNameStart first
  have no_digit : c.isDigit = false := by
    rwa [isNameStart_eq_not_isDigit char, Bool.not_eq_true'] at first
  have no_mark : c.toNat ≠ 0xfeff := by
    have ascii := Word.toNat_lt_of_isNameContinue char
    omega
  have other {d : Char} (starts_none : isNameStart d = false) : c ≠ d := by
    rintro rfl
    rw [first] at starts_none
    cases starts_none
  have no_blank : ¬(c = ' ' ∨ c = '\t' ∨ c = ',' ∨ c = '\n' ∨ c.toNat = 0xfeff) := by
    simp [other (d := ' ') rfl, other (d := '\t') rfl, other (d := ',') rfl,
      other (d := '\n') rfl, no_mark]
  have no_number : ¬(c.isDigit ∨ c = '-') := by
    simp [no_digit, other (d := '-') rfl]
  unfold step
  rw [if_neg no_blank, if_neg (other rfl), if_neg (other rfl), if_neg (other rfl),
    if_neg (other rfl), if_neg no_number, if_pos first]

/-- A name is one token if it does not go on behind itself. -/
lemma LexesTo.of_isName {s : String} (named : IsName s)
    (ends : ∀ d ∈ rest.head?, isNameContinue d = false) : LexesTo rest s.toList [.name s] := by
  obtain ⟨c, cs, eq, first, chars⟩ := named.exists_cons
  have run : (cs ++ rest).takeWhile isNameContinue = cs :=
    Text.takeWhile_run (List.forall_mem_cons.1 chars).2 ends
  have read : step c (cs ++ rest) = .lexeme (.name s) cs.length := by
    rw [step_name first, run, ← eq, String.ofList_toList]
  rw [eq]
  exact .of_step read

end Lexing

namespace TypeExpr

variable {t : TypeExpr} {rest : List Char}

/-- The lexeme of a mark, if there is one. -/
def markLexemes (required : Bool) : List Lexeme := if required then [.punct .bang] else []

/-- The lexemes of a type as it is written. -/
def lexemes : TypeExpr → List Lexeme
  | named name required => .name name.text :: markLexemes required
  | list _ item required =>
    .punct .bracketL :: (item.lexemes ++ .punct .bracketR :: markLexemes required)

/-- A type is written with names, brackets and marks. -/
lemma forall_mem_lexemes (t : TypeExpr) :
    ∀ l ∈ t.lexemes, (∃ s, l = .name s) ∨ ∃ p, l = .punct p := by
  have mark (required : Bool) :
      ∀ l ∈ markLexemes required, (∃ s, l = Lexeme.name s) ∨ ∃ p, l = .punct p := by
    cases required with
    | false => exact List.forall_mem_nil _
    | true => exact List.forall_mem_singleton.2 (.inr ⟨.bang, rfl⟩)
  induction t with
  | named name required => exact List.forall_mem_cons.2 ⟨.inl ⟨_, rfl⟩, mark required⟩
  | list bracket item required ih =>
    have behind := List.forall_mem_cons.2 ⟨.inr ⟨.bracketR, rfl⟩, mark required⟩
    exact List.forall_mem_cons.2 ⟨.inr ⟨_, rfl⟩, List.forall_mem_append.2 ⟨ih, behind⟩⟩

/-- The written form of a list type. -/
lemma text_list (bracket : Position) (item : TypeExpr) (required : Bool) :
    (list bracket item required).text =
      "[" ++ (item.text ++ ("]" ++ if required then "!" else "")) := by
  rw [text, String.append_assoc]
  cases required <;> rfl

/-- A mark is one token, and no mark is none. -/
lemma lexesTo_mark (required : Bool) :
    LexesTo rest (if required then "!" else "").toList (markLexemes required) := by
  cases required with
  | false => exact .nil
  | true => exact .of_step rfl

/-- The text of a type is cut into the lexemes of the type, if what follows does not go on with the
name. -/
lemma lexesTo_text (named : IsName t.core.1.text)
    (ends : ∀ d ∈ rest.head?, isNameContinue d = false) : LexesTo rest t.text.toList t.lexemes := by
  induction t generalizing rest with
  | named name required =>
    have apart : ∀ d ∈ ((if required then "!" else "").toList ++ rest).head?,
        isNameContinue d = false := by
      cases required with
      | false => exact ends
      | true =>
        rintro d ⟨rfl⟩
        rfl
    rw [text, String.toList_append]
    exact (LexesTo.of_isName named apart).append (lexesTo_mark required)
  | list bracket item required ih =>
    have bracketed : ∀ d ∈ (']' :: ((if required then "!" else "").toList ++ rest)).head?,
        isNameContinue d = false := by
      rintro d ⟨rfl⟩
      rfl
    have close : LexesTo ((if required then "!" else "").toList ++ rest) [']']
        [.punct .bracketR] := .of_step rfl
    have opened (rest : List Char) : LexesTo rest ['['] [.punct .bracketL] := .of_step rfl
    rw [text_list, String.toList_append, String.toList_append, String.toList_append]
    exact (opened _).append ((ih named bracketed).append (close.append (lexesTo_mark required)))

end TypeExpr

/-! ## From tokens to types -/

namespace Reader

variable {t : Token} {ts rest : List Token} {p : Punct}

/-- The lexeme of the next token. -/
def nextLexeme (ts : List Token) : Lexeme := (ts.head?.map (·.lexeme)).getD .endOfFile

/-- The next lexeme is that of the first token. -/
lemma nextLexeme_cons (t : Token) (ts : List Token) : nextLexeme (t :: ts) = t.lexeme := rfl

/-- To pass over a token leaves those behind it. -/
lemma advance_cons (t : Token) (ts : List Token) : advance none (t :: ts) = .ok ((), ts) := by
  cases ts <;> rfl

/-- A punctuator that comes next is taken. -/
lemma accept_cons (next : t.lexeme = .punct p) : accept p none (t :: ts) = .ok (true, ts) := by
  have seen : sees p none (t :: ts) = .ok (true, t :: ts) := by
    refine bind_eq_ok_iff.2 ⟨t, t :: ts, rfl, ?_⟩
    rw [next, beq_self_eq_true]
    rfl
  exact bind_eq_ok_iff.2 ⟨true, _, seen, bind_eq_ok_iff.2 ⟨(), ts, advance_cons t ts, rfl⟩⟩

/-- Anything else that comes next is left. -/
lemma accept_other (other : nextLexeme ts ≠ .punct p) : accept p none ts = .ok (false, ts) := by
  have seen : sees p none ts = .ok (false, ts) := by
    cases ts with
    | nil => rfl
    | cons t ts =>
      refine bind_eq_ok_iff.2 ⟨t, t :: ts, rfl, ?_⟩
      rw [nextLexeme_cons] at other
      rw [beq_eq_false_iff_ne.2 other]
      rfl
  exact bind_eq_ok_iff.2 ⟨false, _, seen, rfl⟩

/-- A punctuator that has to come is taken if it does. -/
lemma expect_cons (next : t.lexeme = .punct p) : expect p none (t :: ts) = .ok ((), ts) := by
  refine bind_eq_ok_iff.2 ⟨t, t :: ts, rfl, ?_⟩
  rw [if_pos next]
  exact advance_cons t ts

/-- A name is taken with its position. -/
lemma name_cons {s : String} (next : t.lexeme = .name s) :
    name none (t :: ts) = .ok (⟨s, t.position⟩, ts) := by
  refine bind_eq_ok_iff.2 ⟨t, t :: ts, rfl, ?_⟩
  rw [next]
  exact bind_eq_ok_iff.2 ⟨(), ts, advance_cons t ts, rfl⟩

/-- A mark is taken if it comes next. -/
lemma requiredMark_append {required : Bool}
    (lexemes : ts.map (·.lexeme) = TypeExpr.markLexemes required)
    (unmarked : nextLexeme rest ≠ .punct .bang) :
    requiredMark none (ts ++ rest) = .ok (required, rest) := by
  cases required with
  | false =>
    obtain rfl := List.map_eq_nil_iff.1 lexemes
    exact accept_other unmarked
  | true =>
    obtain ⟨t, left, rfl, bang, eq⟩ := List.map_eq_cons_iff.1 lexemes
    obtain rfl := List.map_eq_nil_iff.1 eq
    exact accept_cons bang

/-- The tokens of a type are read as the type, but for its positions, if there are levels enough and
no further mark follows. -/
lemma exists_typeExpr_append {type : TypeExpr} {levels : Nat} (fits : type.depth ≤ levels)
    (lexemes : ts.map (·.lexeme) = type.lexemes) (unmarked : nextLexeme rest ≠ .punct .bang) :
    ∃ read, read.unplaced = type.unplaced ∧ typeExpr levels none (ts ++ rest) = .ok (read, rest) := by
  induction type generalizing levels ts rest with
  | named i required =>
    obtain ⟨t, marks, rfl, first, lexemes⟩ := List.map_eq_cons_iff.1 lexemes
    have no_bracket : nextLexeme (t :: (marks ++ rest)) ≠ .punct .bracketL := by
      rw [nextLexeme_cons, first]
      exact nofun
    refine ⟨.named ⟨i.text, t.position⟩ required, rfl, ?_⟩
    cases levels <;>
      exact bind_eq_ok_iff.2 ⟨t, _, rfl, bind_eq_ok_iff.2 ⟨false, _, accept_other no_bracket,
        bind_eq_ok_iff.2 ⟨_, _, name_cons first,
          bind_eq_ok_iff.2 ⟨_, _, requiredMark_append lexemes unmarked, rfl⟩⟩⟩⟩
  | list bracket item required ih =>
    obtain ⟨t, inside, rfl, first, lexemes⟩ := List.map_eq_cons_iff.1 lexemes
    obtain ⟨within, behind, rfl, item_lexemes, lexemes⟩ := List.map_eq_append_iff.1 lexemes
    obtain ⟨close, marks, rfl, last, lexemes⟩ := List.map_eq_cons_iff.1 lexemes
    cases levels with
    | zero => cases fits
    | succ levels =>
      have no_mark : nextLexeme (close :: (marks ++ rest)) ≠ .punct .bang := by
        rw [nextLexeme_cons, last]
        exact nofun
      obtain ⟨read, same, item_read⟩ := ih (Nat.le_of_succ_le_succ fits) item_lexemes no_mark
      refine ⟨.list t.position read required, congrArg (TypeExpr.list .unknown · required) same, ?_⟩
      rw [List.cons_append, List.append_assoc, List.cons_append]
      exact bind_eq_ok_iff.2 ⟨t, _, rfl, bind_eq_ok_iff.2 ⟨true, _, accept_cons first,
        bind_eq_ok_iff.2 ⟨_, _, item_read, bind_eq_ok_iff.2 ⟨_, _, expect_cons last,
          bind_eq_ok_iff.2 ⟨_, _, requiredMark_append lexemes unmarked, rfl⟩⟩⟩⟩⟩

end Reader

namespace TypeExpr

variable {t : TypeExpr} {levels : Nat}

/-- The type that a text holds, with that many levels of lists at most. -/
def readTo (levels : Nat) (text : String) : Except Fault TypeExpr :=
  (lex text).read do
    let t ← Reader.typeExpr levels
    let next ← Reader.peek
    if next.lexeme ≠ .endOfFile then Reader.unexpected
    return t

/-- To read a type is to read it with all levels that there are. -/
lemma readTo_maxDepth (text : String) : readTo Reader.maxDepth text = read text := rfl

/-- The text of a type is read as the type, but for its positions, if there are levels enough. -/
lemma exists_readTo_text (named : IsName t.core.1.text) (fits : t.depth ≤ levels) :
    ∃ t', readTo levels t.text = .ok t' ∧ t'.unplaced = t.unplaced := by
  have whole : LexesTo [] t.text.toList t.lexemes := lexesTo_text named (by simp)
  obtain ⟨q, ts, lexemes, lexed⟩ := whole .start
  rw [List.append_nil, lexFrom, List.append_nil] at lexed
  have kept : ts.filter (!·.isComment) = ts := by
    rw [List.filter_eq_self]
    intro x mem
    have mem : x.lexeme ∈ t.lexemes := lexemes ▸ List.mem_map_of_mem mem
    rw [Token.isComment]
    rcases forall_mem_lexemes t _ mem with ⟨s, eq⟩ | ⟨p, eq⟩ <;> rw [eq] <;> rfl
  have no_mark : Reader.nextLexeme [] ≠ .punct .bang := by decide
  obtain ⟨t', same, read⟩ := Reader.exists_typeExpr_append fits lexemes no_mark
  rw [List.append_nil] at read
  refine ⟨t', ?_, same⟩
  rw [readTo, lex, lexed, TokenStream.read, kept]
  refine mapError_eq_ok_iff.2 (map_eq_ok_iff.2 ⟨(t', []), ?_, rfl⟩)
  exact Reader.bind_eq_ok_iff.2 ⟨t', [], read, rfl⟩

/-- Types with names at their cores have different texts, unless they differ in positions only. -/
lemma unplaced_eq_of_text {t' : TypeExpr} (named : IsName t.core.1.text)
    (named' : IsName t'.core.1.text) (text : t.text = t'.text) : t.unplaced = t'.unplaced := by
  obtain ⟨r, read, same⟩ := exists_readTo_text named (le_max_left t.depth t'.depth)
  obtain ⟨r', read', same'⟩ := exists_readTo_text named' (le_max_right t.depth t'.depth)
  rw [text, read'] at read
  cases read
  rw [← same, same']

end TypeExpr

end SchemaLint.Sdl

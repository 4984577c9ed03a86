import Mathlib
import SchemaLint.Proofs.Sdl.Lexeme
import SchemaLint.Proofs.Sdl.TrailingComment

/-!
# Where tokens stand

A token takes a run of characters, its extent, which stands in the text where the position of the
token says: `standsIn_of_mem_extents`. No token starts on an earlier line than one in front of it, and
none on the line of a comment in front of it: `pairwise_extentsFrom`. All tokens but block strings are
on one line.
-/

namespace SchemaLint.Sdl

/-- A token with the characters that it takes. -/
structure Extent where
  token : Token
  text : List Char
  deriving DecidableEq, Repr

namespace Extent

/-- The line on which the token starts. -/
def line (e : Extent) : Nat := e.token.position.line

/-- One of the characters of the token stands on the line. -/
def Occupies (e : Extent) (line : Nat) : Prop :=
  ∃ n < e.text.length, (e.token.position.after (e.text.take n)).line = line

instance (e : Extent) (line : Nat) : Decidable (e.Occupies line) :=
  inferInstanceAs (Decidable (∃ n < e.text.length, _ = line))

end Extent

/-- The tokens of a text whose first character stands at `p`, with their characters. -/
def extentsFrom (p : Position) (cs : List Char) : List Extent :=
  match cs with
  | [] => []
  | c :: rest =>
    match step c rest with
    | .blank more => extentsFrom (p.after (c :: rest.take more)) (rest.drop more)
    | .lexeme l more =>
      ⟨⟨l, p⟩, c :: rest.take more⟩ ::
        extentsFrom (p.after (c :: rest.take more)) (rest.drop more)
    | .fault _ _ => []
termination_by cs.length
decreasing_by all_goals simp only [List.length_drop, List.length_cons]; omega

/-- The tokens of a text with their characters. -/
def extents (text : String) : List Extent := extentsFrom .start text.toList

variable {cs rest : List Char} {c : Char} {p : Position} {more : Nat} {l : Lexeme} {e : Extent}

/-! ## Lines -/

namespace Position

/-- Characters do not lead to an earlier line. -/
lemma line_le_after (p : Position) (cs : List Char) : p.line ≤ (p.after cs).line := by
  induction p, cs using after.induct with
  | case1 p rest ih =>
    rw [after]
    exact Nat.le_of_succ_le ih
  | case2 p c rest no_pair line_end ih =>
    rw [after.eq_2 _ _ _ no_pair, if_pos line_end]
    exact Nat.le_of_succ_le ih
  | case3 p c rest no_pair goes_on ih =>
    rw [after.eq_2 _ _ _ no_pair, if_neg goes_on]
    exact ih
  | case4 p => exact le_rfl

/-- Characters that do not end the line stay on it. -/
lemma line_after_eq (goes_on : ∀ d ∈ cs, endsLine d = false) : (p.after cs).line = p.line := by
  induction cs generalizing p with
  | nil => rfl
  | cons c cs ih =>
    obtain ⟨here, behind⟩ := List.forall_mem_cons.1 goes_on
    have no_end : ¬(c = '\n' ∨ c = '\r') := endsLine_eq_false_iff.1 here
    have no_pair : ∀ rest, c = '\r' → cs = '\n' :: rest → False := fun _ eq _ => no_end (.inr eq)
    rw [after.eq_2 _ _ _ no_pair, if_neg no_end, ih behind]

/-- No line end of two characters is cut in two between the texts. -/
def Apart (front back : List Char) : Prop :=
  front.getLast? = some '\r' → back.head? ≠ some '\n'

/-- What is apart from a text is so without its first character. -/
lemma Apart.of_cons (apart : Apart (c :: cs) rest) : Apart cs rest :=
  fun last => apart (by rw [List.getLast?_cons, last]; rfl)

/-- What is apart from a text is apart from its front. -/
lemma Apart.of_append {ds : List Char} (apart : Apart cs (ds ++ rest)) : Apart cs ds := by
  intro last
  cases ds with
  | nil => exact nofun
  | cons d ds => exact apart last

/-- No line end of two characters arises where none is cut in two. -/
lemma Apart.no_pair (apart : Apart (c :: cs) rest)
    (no_pair : ∀ tail, c = '\r' → cs = '\n' :: tail → False) :
    ∀ tail, c = '\r' → cs ++ rest = '\n' :: tail → False := by
  intro tail carriage_return eq
  cases cs with
  | nil =>
    rw [List.nil_append] at eq
    exact apart (by rw [carriage_return]; rfl) (by rw [eq]; rfl)
  | cons d cs =>
    cases eq
    exact no_pair cs carriage_return rfl

/-- Characters that are apart are passed one after the other, by induction on the first. -/
lemma after_append (apart : Apart cs rest) : p.after (cs ++ rest) = (p.after cs).after rest := by
  induction p, cs using after.induct with
  | case1 p cs ih =>
    rw [List.cons_append, List.cons_append, after, after, ih apart.of_cons.of_cons]
  | case2 p c cs no_pair line_end ih =>
    rw [List.cons_append, after.eq_2 _ _ _ (apart.no_pair no_pair), if_pos line_end,
      after.eq_2 _ _ _ no_pair, if_pos line_end, ih apart.of_cons]
  | case3 p c cs no_pair goes_on ih =>
    rw [List.cons_append, after.eq_2 _ _ _ (apart.no_pair no_pair), if_neg goes_on,
      after.eq_2 _ _ _ no_pair, if_neg goes_on, ih apart.of_cons]
  | case4 p => rfl

end Position

/-! ## Extents -/

/-- A blank is passed over. -/
lemma extentsFrom_blank (blank : step c rest = .blank more) :
    extentsFrom p (c :: rest) = extentsFrom (p.after (c :: rest.take more)) (rest.drop more) := by
  rw [extentsFrom]
  simp only [blank]

/-- A lexeme is a token with its characters, and more of them come behind it. -/
lemma extentsFrom_lexeme (lexeme : step c rest = .lexeme l more) :
    extentsFrom p (c :: rest) = ⟨⟨l, p⟩, c :: rest.take more⟩ ::
      extentsFrom (p.after (c :: rest.take more)) (rest.drop more) := by
  rw [extentsFrom]
  simp only [lexeme]

/-- No tokens come behind a fault. -/
lemma extentsFrom_fault {cause : FaultCause} {offset : Nat}
    (fault : step c rest = .fault cause offset) : extentsFrom p (c :: rest) = [] := by
  rw [extentsFrom]
  simp only [fault]

/-- The tokens with their characters are those of the lexer, by induction on the text. -/
lemma map_token_extentsFrom (p : Position) (cs : List Char) :
    (extentsFrom p cs).map (·.token) = (lexFrom p cs).tokens := by
  induction p, cs using lexFrom.induct with
  | case1 p => rw [extentsFrom, lexFrom, List.map_nil]
  | case2 p c rest more blank ih => rw [extentsFrom_blank blank, lexFrom_blank blank, ih]
  | case3 p c rest l more lexeme ih =>
    rw [extentsFrom_lexeme lexeme, lexFrom_lexeme lexeme, List.map_cons, ih]
    rfl
  | case4 p c rest cause offset fault =>
    rw [extentsFrom_fault fault, lexFrom]
    simp only [fault, List.map_nil]

/-- What holds of the lexeme of a step at any position holds of all extents. -/
lemma forall_mem_extentsFrom {P : Extent → Prop}
    (each : ∀ {p c rest l more}, step c rest = .lexeme l more → P ⟨⟨l, p⟩, c :: rest.take more⟩) :
    ∀ e ∈ extentsFrom p cs, P e := by
  induction p, cs using lexFrom.induct with
  | case1 p =>
    rw [extentsFrom]
    exact List.forall_mem_nil _
  | case2 p c rest more blank ih =>
    rw [extentsFrom_blank blank]
    exact ih
  | case3 p c rest l more lexeme ih =>
    rw [extentsFrom_lexeme lexeme, List.forall_mem_cons]
    exact ⟨each lexeme, ih⟩
  | case4 p c rest cause offset fault =>
    rw [extentsFrom_fault fault]
    exact List.forall_mem_nil _

/-- All tokens but block strings are on the line on which they start. -/
lemma goes_on_of_mem_extentsFrom (mem : e ∈ extentsFrom p cs)
    (no_block : e.token.lexeme.isBlockString = false) : ∀ d ∈ e.text, endsLine d = false := by
  refine forall_mem_extentsFrom (P := fun e => e.token.lexeme.isBlockString = false →
    ∀ d ∈ e.text, endsLine d = false) (fun lexeme no_block => ?_) e mem no_block
  rw [List.forall_mem_cons]
  exact ⟨goes_on_of_step_lexeme lexeme, goes_on_of_mem_take (step_lexeme_le lexeme no_block)⟩

/-- A token stands on the line on which it starts. -/
lemma occupies_line (mem : e ∈ extentsFrom p cs) : e.Occupies e.line := by
  refine forall_mem_extentsFrom (P := fun e => e.Occupies e.line) (fun lexeme => ?_) e mem
  exact ⟨0, Nat.succ_pos _, rfl⟩

/-- A token but a block string is only on the line on which it starts. -/
lemma line_eq_of_occupies {line : Nat} (mem : e ∈ extentsFrom p cs) (occupies : e.Occupies line)
    (no_block : e.token.lexeme.isBlockString = false) : e.line = line := by
  obtain ⟨n, -, rfl⟩ := occupies
  have goes_on := goes_on_of_mem_extentsFrom mem no_block
  exact (Position.line_after_eq fun d mem => goes_on d (List.mem_of_mem_take mem)).symm

/-- Nothing stands in front of the position at which the text starts. -/
lemma line_le_of_mem_extentsFrom : ∀ e ∈ extentsFrom p cs, p.line ≤ e.line := by
  induction p, cs using lexFrom.induct with
  | case1 p =>
    rw [extentsFrom]
    exact List.forall_mem_nil _
  | case2 p c rest more blank ih =>
    rw [extentsFrom_blank blank]
    exact fun e mem => (Position.line_le_after _ _).trans (ih e mem)
  | case3 p c rest l more lexeme ih =>
    rw [extentsFrom_lexeme lexeme, List.forall_mem_cons]
    exact ⟨le_rfl, fun e mem => (Position.line_le_after _ _).trans (ih e mem)⟩
  | case4 p c rest cause offset fault =>
    rw [extentsFrom_fault fault]
    exact List.forall_mem_nil _

/-- Behind a line end, all tokens start on later lines. -/
lemma line_lt_of_mem_extentsFrom (line_end : ∀ c, cs.head? = some c → endsLine c) :
    ∀ e ∈ extentsFrom p cs, p.line < e.line := by
  cases cs with
  | nil =>
    rw [extentsFrom]
    exact List.forall_mem_nil _
  | cons c rest =>
    have line_end : c = '\n' ∨ c = '\r' := endsLine_iff.1 (line_end c rfl)
    obtain ⟨more, blank, next⟩ : ∃ more, step c rest = .blank more ∧
        (p.after (c :: rest.take more)).line = p.line + 1 := by
      rcases line_end with rfl | rfl
      · exact ⟨0, rfl, rfl⟩
      · refine ⟨_, rfl, ?_⟩
        split
        · rename_i pair
          obtain ⟨tail, rfl⟩ := List.head?_eq_some_iff.1 pair
          rfl
        · rfl
    rw [extentsFrom_blank blank]
    exact fun e mem => Nat.lt_of_lt_of_le (by omega) (line_le_of_mem_extentsFrom e mem)

/-- A comment goes on to the end of its line. -/
lemma line_end_of_comment {text : String} (comment : step c rest = .lexeme (.comment text) more) :
    ∀ d, (rest.drop more).head? = some d → endsLine d := by
  have all : more = lineRoom rest := fits_of_step comment
  have none_left : lineRoom (rest.drop more) = 0 := by
    have room := lineRoom_drop (Nat.le_of_eq all)
    omega
  intro d head
  cases goes_on : endsLine d with
  | true => rfl
  | false =>
    have pos := one_le_lineRoom head goes_on
    omega

/-- The tokens of a text start in the order of its lines, and behind a comment on later lines. -/
lemma pairwise_extentsFrom (p : Position) (cs : List Char) :
    (extentsFrom p cs).Pairwise fun e e' =>
      e.line ≤ e'.line ∧ (e.token.isComment → e.line < e'.line) := by
  induction p, cs using lexFrom.induct with
  | case1 p =>
    rw [extentsFrom]
    exact .nil
  | case2 p c rest more blank ih =>
    rw [extentsFrom_blank blank]
    exact ih
  | case3 p c rest l more lexeme ih =>
    rw [extentsFrom_lexeme lexeme, List.pairwise_cons]
    refine ⟨fun e mem => ⟨?_, ?_⟩, ih⟩
    · exact (Position.line_le_after _ _).trans (line_le_of_mem_extentsFrom e mem)
    · intro comment
      cases l with
      | comment text =>
        have later := line_lt_of_mem_extentsFrom (line_end_of_comment lexeme) e mem
        exact Nat.lt_of_le_of_lt (Position.line_le_after _ _) later
      | _ => cases comment
  | case4 p c rest cause offset fault =>
    rw [extentsFrom_fault fault]
    exact .nil

/-! ## Places in the text -/

/-- No step ends within a line end. -/
lemma apart_of_blank (blank : step c rest = .blank more) :
    Position.Apart (c :: rest.take more) (rest.drop more) := by
  by_cases carriage_return : c = '\r'
  · subst carriage_return
    cases blank
    split
    · rename_i pair
      obtain ⟨tail, rfl⟩ := List.head?_eq_some_iff.1 pair
      exact nofun
    · rename_i no_pair
      exact fun _ => no_pair
  · -- any other blank is one character
    have white := (white_of_step_blank blank).resolve_right carriage_return
    unfold step at blank
    rw [if_pos white] at blank
    cases blank
    exact fun last => absurd (Option.some.inj last) carriage_return

/-- No token cuts a line end of two characters in two. -/
lemma apart_of_lexeme (lexeme : step c rest = .lexeme l more) :
    Position.Apart (c :: rest.take more) (rest.drop more) := by
  have last_ne : (c :: rest.take more).getLast? ≠ some '\r' := by
    cases sort : l.isBlockString with
    | false =>
      have goes_on : ∀ d ∈ c :: rest.take more, endsLine d = false := by
        rw [List.forall_mem_cons]
        exact ⟨goes_on_of_step_lexeme lexeme, goes_on_of_mem_take (step_lexeme_le lexeme sort)⟩
      intro last
      cases goes_on _ (List.mem_of_getLast? last)
    | true =>
      cases l with
      | blockString value =>
        have last : (rest.take more).getLast? = some '"' := fits_of_step lexeme
        rw [List.getLast?_cons, last, Option.getD_some]
        decide
      | _ => cases sort
  exact fun last => absurd last last_ne

/-- The token stands in the text `cs`, whose first character stands at `p`, where its position says. -/
def Extent.StandsIn (p : Position) (cs : List Char) (e : Extent) : Prop :=
  ∃ front back, cs = front ++ e.text ++ back ∧ e.token.position = p.after front

/-- What stands behind a step stands in the text. -/
lemma Extent.StandsIn.behind (apart : Position.Apart (c :: rest.take more) (rest.drop more))
    (stands : e.StandsIn (p.after (c :: rest.take more)) (rest.drop more)) :
    e.StandsIn p (c :: rest) := by
  obtain ⟨front, back, eq, position⟩ := stands
  refine ⟨c :: rest.take more ++ front, back, ?_, ?_⟩
  · rw [List.append_assoc, List.append_assoc, ← List.append_assoc front, ← eq, List.cons_append,
      List.take_append_drop]
  · rw [eq, List.append_assoc] at apart
    rw [position, Position.after_append apart.of_append]

/-- Each token stands where its position says, by induction on the text. -/
lemma standsIn_of_mem_extentsFrom : ∀ e ∈ extentsFrom p cs, e.StandsIn p cs := by
  induction p, cs using lexFrom.induct with
  | case1 p =>
    rw [extentsFrom]
    exact List.forall_mem_nil _
  | case2 p c rest more blank ih =>
    rw [extentsFrom_blank blank]
    exact fun e mem => (ih e mem).behind (apart_of_blank blank)
  | case3 p c rest l more lexeme ih =>
    rw [extentsFrom_lexeme lexeme, List.forall_mem_cons]
    refine ⟨⟨[], rest.drop more, ?_, rfl⟩, fun e mem => (ih e mem).behind (apart_of_lexeme lexeme)⟩
    rw [List.nil_append, List.cons_append, List.take_append_drop]
  | case4 p c rest cause offset fault =>
    rw [extentsFrom_fault fault]
    exact List.forall_mem_nil _

/-- A token stands in its text where its position says. -/
theorem standsIn_of_mem_extents {text : String} (mem : e ∈ extents text) :
    e.StandsIn .start text.toList :=
  standsIn_of_mem_extentsFrom e mem

/-! ## Documents -/

variable {text source : String} {d : Document}

/-- The tokens of a text with their characters are those of the lexer. -/
lemma map_token_extents (text : String) : (extents text).map (·.token) = (lex text).tokens :=
  map_token_extentsFrom _ _

/-- The lines of a text are counted from 1. -/
lemma one_le_line_of_mem_extents : ∀ e ∈ extents text, 1 ≤ e.line :=
  line_le_of_mem_extentsFrom

/-- The tokens of a document are those of its text. -/
lemma Document.tokens_of_read (read : Document.read text source = .ok d)
    (located : d.origin ≠ none) :
    d.origin = some ⟨source, (extents text).map (·.token)⟩ := by
  obtain ⟨ds, -, eq⟩ := bind_eq_ok_iff.1 read
  cases eq
  rw [map_token_extents]
  cases ds with
  | nil => exact absurd rfl located
  | cons _ _ => rfl

/-- The tokens of a document that is read stand on lines that are counted from one. -/
lemma Document.line_ne_zero_of_read (read : Document.read text source = .ok d) {origin : Origin}
    (located : d.origin = some origin) : ∀ t ∈ origin.tokens, t.position.line ≠ 0 := by
  have tokens := tokens_of_read read (by rw [located]; exact Option.some_ne_none _)
  rw [located] at tokens
  cases tokens
  refine List.forall_mem_map.2 fun e mem => ?_
  exact Nat.ne_of_gt (one_le_line_of_mem_extents e mem)

end SchemaLint.Sdl

import Mathlib
import SchemaLint.Proofs.Sdl.TrailingComment

/-!
# Places in a document

What a document holds stands at places. The document is located if these are in the order of a text.
The tokens of a text stand one behind the other.
-/

namespace SchemaLint.Sdl

namespace Position

/-- The position comes first in a text. -/
def Before (p q : Position) : Prop := p.line < q.line ∨ p.line = q.line ∧ p.column < q.column

instance (p q : Position) : Decidable (p.Before q) := inferInstanceAs (Decidable (_ ∨ _))

variable {p q r : Position}

/-- What stands before something that stands before a third stands before this. -/
lemma Before.trans (first : p.Before q) (second : q.Before r) : p.Before r := by
  unfold Before at *
  omega

/-- Nothing stands before itself. -/
lemma not_before_self (p : Position) : ¬p.Before p := by
  unfold Before
  omega

/-- Of two places only one stands before the other. -/
lemma Before.not_before (before : p.Before q) : ¬q.Before p := fun after =>
  not_before_self p (before.trans after)

/-- What stands before something stands before all that does not stand before this. -/
lemma Before.of_not_before (first : p.Before q) (second : ¬r.Before q) : p.Before r := by
  unfold Before at *
  omega

/-- Two places of which none stands before the other are the same. -/
lemma eq_of_not_before (first : ¬p.Before q) (second : ¬q.Before p) : p = q := by
  obtain ⟨line, column⟩ := p
  obtain ⟨line', column'⟩ := q
  unfold Before at first second
  dsimp only at first second
  rw [Position.mk.injEq]
  omega

end Position

/-! ## Places -/

/-- Where an argument stands, and its type. -/
def ArgumentNode.places (a : ArgumentNode) : List Position := [a.name.position, a.type.position]

/-- Where a field stands, its arguments and its type. -/
def FieldNode.places (f : FieldNode) : List Position :=
  f.name.position :: f.arguments.flatMap (·.places) ++ [f.type.position]

/-- Where the parts of a body stand. -/
def TypeBody.places : TypeBody → List Position
  | scalar => []
  | object interfaces fields | interface interfaces fields =>
    interfaces.map (·.position) ++ fields.flatMap (·.places)
  | union members => members.map (·.position)
  | enum values => values.map (·.position)
  | input fields => fields.flatMap (·.places)

/-- Where a definition stands that has a name, and what it holds. -/
def Definition.places : Definition → List Position
  | schema _ _ roots => roots.map (·.type.position)
  | type _ name body => name.position :: body.places
  | directive _ name arguments => name.position :: arguments.flatMap (·.places)
  | operation _ | fragment _ => []

namespace Document

/-- Where the definitions of a document stand, and what they hold. -/
def places (d : Document) : List Position := d.definitions.flatMap (·.places)

/-- What the document holds stands in the order of a text, each thing at a place of its own. -/
def Located (d : Document) : Prop := d.places.Pairwise Position.Before

instance (d : Document) : Decidable d.Located := inferInstanceAs (Decidable (List.Pairwise _ _))

end Document

/-! ## Tokens of a text -/

section Text
variable {p : Position}

/-- Characters do not lead backwards, by induction on them. -/
lemma Position.not_after_before (p : Position) (cs : List Char) : ¬(p.after cs).Before p := by
  induction p, cs using Position.after.induct with
  | case1 p rest ih =>
    rw [after]
    unfold Before at *
    dsimp only at ih
    omega
  | case2 p c rest no_pair newline ih =>
    rw [after, if_pos newline]
    · unfold Before at *
      dsimp only at ih
      omega
    · exact no_pair
  | case3 p c rest no_pair inside ih =>
    rw [after, if_neg inside]
    · unfold Before at *
      dsimp only at ih
      omega
    · exact no_pair
  | case4 p =>
    rw [after]
    exact not_before_self p

/-- Behind a character is a later position. -/
lemma Position.before_after (p : Position) (c : Char) (cs : List Char) :
    p.Before (p.after (c :: cs)) := by
  have newline : p.Before ⟨p.line + 1, 1⟩ := .inl (Nat.lt_succ_self _)
  have inside : p.Before ⟨p.line, p.column + 1⟩ := .inr ⟨rfl, Nat.lt_succ_self _⟩
  rw [after.eq_def]
  split
  · exact newline.of_not_before (not_after_before _ _)
  · split
    · rename_i eq _
      cases eq
      exact newline.of_not_before (not_after_before _ _)
    · rename_i eq _
      cases eq
      exact inside.of_not_before (not_after_before _ _)
  · rename_i eq
    cases eq

/-- No token stands before the start of its text. -/
lemma not_before_of_mem_lexFrom (p : Position) (cs : List Char) :
    ∀ t ∈ (lexFrom p cs).tokens, ¬t.position.Before p := by
  induction p, cs using lexFrom.induct with
  | case1 p =>
    rw [lexFrom]
    intro t mem
    cases mem
  | case2 p c rest more blank ih =>
    rw [lexFrom_blank blank]
    intro t mem before
    exact ih t mem (before.trans (p.before_after c _))
  | case3 p c rest l more lexeme ih =>
    rw [lexFrom_lexeme lexeme, TokenStream.cons, List.forall_mem_cons]
    refine ⟨p.not_before_self, fun t mem before => ?_⟩
    exact ih t mem (before.trans (p.before_after c _))
  | case4 p c rest cause offset fault =>
    rw [lexFrom]
    simp [fault]

/-- The tokens of a text stand one behind the other. -/
lemma pairwise_before_lexFrom (p : Position) (cs : List Char) :
    ((lexFrom p cs).tokens.map (·.position)).Pairwise Position.Before := by
  induction p, cs using lexFrom.induct with
  | case1 p =>
    rw [lexFrom]
    exact .nil
  | case2 p c rest more blank ih =>
    rw [lexFrom_blank blank]
    exact ih
  | case3 p c rest l more lexeme ih =>
    rw [lexFrom_lexeme lexeme, TokenStream.cons, List.map_cons, List.pairwise_cons]
    refine ⟨List.forall_mem_map.2 fun t mem => ?_, ih⟩
    exact (p.before_after c _).of_not_before (not_before_of_mem_lexFrom _ _ t mem)
  | case4 p c rest cause offset fault =>
    rw [lexFrom]
    simp [fault]

end Text

end SchemaLint.Sdl

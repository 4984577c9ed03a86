import Mathlib
import SchemaLint.Proofs.Schema.Acceptance
import SchemaLint.Proofs.Sdl.Places

/-!
# Stages

Violations of a document are looked for in stages. `Breaks` tells what is wrong with the document, in
terms of its definitions alone, and at which stage this is found.
-/

namespace SchemaLint

open Sdl (ArgumentNode Definition Document FieldNode Ident Position RootNode TypeBody)

/-! ## Stages -/

/-- When a violation is looked for. The nodes of types are compared first. Then the types are gone
through, each part by part, and of a field its name and its type before its arguments. The arguments
of directives and the root types come last. -/
inductive Stage where
  | nodes
  | part (type part : Position) (arguments : Bool)
  | directives
  | roots
  deriving DecidableEq, Repr

namespace Stage

/-- The number of the pass over the document. -/
def pass : Stage → Nat
  | nodes => 0
  | part _ _ _ => 1
  | directives => 2
  | roots => 3

/-- The stage comes first. A type counts from the place where the document names it first. -/
inductive Before : Stage → Stage → Prop where
  | pass {s t} : s.pass < t.pass → Before s t
  | type {type part arguments type' part' arguments'} :
    type.Before type' → Before (.part type part arguments) (.part type' part' arguments')
  | part {type part arguments part' arguments'} :
    part.Before part' → Before (.part type part arguments) (.part type part' arguments')
  | arguments {type part} : Before (.part type part false) (.part type part true)

variable {s t : Stage}

/-- No stage is before itself. -/
lemma not_before_self (s : Stage) : ¬s.Before s := by
  intro before
  cases before with
  | pass lt => exact lt_irrefl _ lt
  | type before => exact Position.not_before_self _ before
  | part before => exact Position.not_before_self _ before

/-- An earlier stage is in the same pass or an earlier one. -/
lemma Before.pass_le (before : s.Before t) : s.pass ≤ t.pass := by
  cases before with
  | pass lt => exact le_of_lt lt
  | type _ => exact le_rfl
  | part _ => exact le_rfl
  | arguments => exact le_rfl

/-- Of two stages only one is before the other. -/
lemma Before.not_before (before : s.Before t) : ¬t.Before s := by
  intro after
  cases before with
  | pass lt => exact not_lt.2 after.pass_le lt
  | type before =>
    cases after with
    | pass lt => exact lt_irrefl _ lt
    | type after => exact before.not_before after
    | part _ => exact Position.not_before_self _ before
    | arguments => exact Position.not_before_self _ before
  | part before =>
    cases after with
    | pass lt => exact lt_irrefl _ lt
    | type after => exact Position.not_before_self _ after
    | part after => exact before.not_before after
    | arguments => exact Position.not_before_self _ before
  | arguments =>
    cases after with
    | pass lt => exact lt_irrefl _ lt
    | type after => exact Position.not_before_self _ after
    | part after => exact Position.not_before_self _ after

/-- Two stages of which none is before the other are the same. -/
lemma eq_of_not_before (first : ¬s.Before t) (second : ¬t.Before s) : s = t := by
  have pass : s.pass = t.pass :=
    le_antisymm (not_lt.1 fun lt => second (.pass lt)) (not_lt.1 fun lt => first (.pass lt))
  cases s with
  | nodes => cases t <;> cases pass; rfl
  | directives => cases t <;> cases pass; rfl
  | roots => cases t <;> cases pass; rfl
  | part type part arguments =>
    cases t with
    | nodes => cases pass
    | directives => cases pass
    | roots => cases pass
    | part type' part' arguments' =>
      obtain rfl := Position.eq_of_not_before (fun before => first (.type before))
        (fun before => second (.type before))
      obtain rfl := Position.eq_of_not_before (fun before => first (.part before))
        (fun before => second (.part before))
      cases arguments with
      | false =>
        cases arguments' with
        | false => rfl
        | true => exact absurd .arguments first
      | true =>
        cases arguments' with
        | false => exact absurd .arguments second
        | true => rfl

end Stage

namespace Violation

/-- A violation that is found at a stage is told before another one if its stage comes first, or if
the stages are the same and it stands first. -/
def Precedes (x y : Stage × Violation) : Prop :=
  x.1.Before y.1 ∨ x.1 = y.1 ∧ x.2.position.Before y.2.position

/-- Of two violations only one precedes the other. -/
lemma Precedes.not_precedes {x y : Stage × Violation} (first : Precedes x y) :
    ¬Precedes y x := by
  rintro (before | ⟨same, before⟩)
  · rcases first with before' | ⟨same, -⟩
    · exact before.not_before before'
    · exact x.1.not_before_self (same ▸ before)
  · rcases first with before' | ⟨-, before'⟩
    · exact x.1.not_before_self (same ▸ before')
    · exact before.not_before before'

end Violation

namespace Sdl.Document

/-! ## Violations and their stages -/

/-- Where the document names the type first. -/
def firstPlace (d : Document) (name : String) : Position :=
  ((d.nodesOf name).head?.map (·.name.position)).getD .unknown

/-- The name is none of a type. -/
def Unresolved (d : Document) (name : String) : Prop := ¬d.Declares name ∧ name ∉ builtinScalars

/-- What is wrong with the document, and at which stage this is looked for. -/
inductive Breaks (d : Document) : Stage → Violation → Prop where
  | redefinedType {i j b c} :
    [.type false i b, .type false j c].Sublist d.definitions → i.text = j.text →
    Breaks d .nodes (.redefinedType j i)
  | conflictingKind {e e' i j b c} :
    [.type e i b, .type e' j c].Sublist d.definitions → i.text = j.text → b.kind ≠ c.kind →
    Breaks d .nodes (.conflictingKind j b.kind c.kind)
  | redefinedField {name f g} :
    [f, g].Sublist (d.fieldsOf name) → f.name.text = g.name.text →
    Breaks d (.part (d.firstPlace name) g.name.position false) (.redefinedMember .field name g.name)
  | redefinedValue {name v w} :
    [v, w].Sublist (d.valuesOf name) → v.text = w.text →
    Breaks d (.part (d.firstPlace name) w.position false) (.redefinedMember .enumValue name w)
  | redefinedArgument {i body f a b} :
    d.HasBody i body → f ∈ body.fields → [a, b].Sublist f.arguments → a.name.text = b.name.text →
    Breaks d (.part (d.firstPlace i.text) f.name.position true)
      (.redefinedMember .argument s!"{i.text}.{f.name.text}" b.name)
  | fieldType {i body f} :
    d.HasBody i body → f ∈ body.fields → d.Unresolved f.type.core.1.text →
    Breaks d (.part (d.firstPlace i.text) f.name.position false)
      (.undefinedType f.type.core.1.text s!"{i.text}.{f.name.text}" f.type.position)
  | argumentType {i body f a} :
    d.HasBody i body → f ∈ body.fields → a ∈ f.arguments → d.Unresolved a.type.core.1.text →
    Breaks d (.part (d.firstPlace i.text) f.name.position true)
      (.undefinedType a.type.core.1.text s!"{i.text}.{f.name.text}({a.name.text})"
        a.type.position)
  | interface {i body m} :
    d.HasBody i body → m ∈ body.interfaces → d.Unresolved m.text →
    Breaks d (.part (d.firstPlace i.text) m.position false)
      (.undefinedType m.text i.text m.position)
  | member {i body m} :
    d.HasBody i body → m ∈ body.members → d.Unresolved m.text →
    Breaks d (.part (d.firstPlace i.text) m.position false)
      (.undefinedType m.text i.text m.position)
  | directiveArgument {i arguments a} :
    .directive false i arguments ∈ d.definitions → a ∈ arguments →
    d.Unresolved a.type.core.1.text →
    Breaks d .directives (.undefinedType a.type.core.1.text s!"@{i.text}" a.name.position)
  | root {e p roots r} :
    .schema e p roots ∈ d.definitions → r ∈ roots → d.Unresolved r.type.text →
    Breaks d .roots (.undefinedType r.type.text "schema" r.type.position)

end Sdl.Document

end SchemaLint

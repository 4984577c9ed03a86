import Mathlib
import SchemaLint.Command.Run
import SchemaLint.Command.World
import SchemaLint.Proofs.Outcome

/-!
# Actions in worlds

What the commands do in a world is taken apart into steps. An action whose outcome is known had a step
with an outcome and a world to go on from (`bind_run_eq_ok_iff`, `bind_run_eq_error_iff`). What every
step keeps, the whole action keeps (`Keeps.andThen`).
-/

namespace SchemaLint

variable {α β : Type} {w w' : World}

/-! ## Steps -/

/-- The second of two actions is done in the world that the first leaves behind. -/
lemma bind_run {x : StateM World α} {f : α → StateM World β} :
    (x >>= f).run w = (f (x.run w).1).run (x.run w).2 := rfl

section
variable {x : ExceptT Failure (StateM World) α} {f : α → ExceptT Failure (StateM World) β} {b : β}
  {failure : Failure}

/-- Two actions have a result if the first has one, and the second with that. -/
lemma bind_run_eq_ok_iff :
    (x >>= f).run.run w = (.ok b, w') ↔
      ∃ a w1, x.run.run w = (.ok a, w1) ∧ (f a).run.run w1 = (.ok b, w') := by
  rw [ExceptT.run_bind, StateT.run_bind]
  cases x.run.run w with
  | mk outcome w1 =>
    cases outcome with
    | ok a =>
      constructor
      · intro run
        exact ⟨a, w1, rfl, run⟩
      · rintro ⟨_, _, ⟨⟩, run⟩
        exact run
    | error e =>
      constructor
      · intro run
        cases run
      · rintro ⟨_, _, ⟨⟩, _⟩

/-- Two actions fail if the first does, or if it has a result and the second fails with that. -/
lemma bind_run_eq_error_iff :
    (x >>= f).run.run w = (.error failure, w') ↔
      x.run.run w = (.error failure, w') ∨
        ∃ a w1, x.run.run w = (.ok a, w1) ∧ (f a).run.run w1 = (.error failure, w') := by
  rw [ExceptT.run_bind, StateT.run_bind]
  cases x.run.run w with
  | mk outcome w1 =>
    cases outcome with
    | ok a =>
      constructor
      · intro run
        exact .inr ⟨a, w1, rfl, run⟩
      · rintro (⟨⟨⟩⟩ | ⟨_, _, ⟨⟩, run⟩)
        exact run
    | error e =>
      constructor
      · rintro ⟨⟩
        exact .inl rfl
      · rintro (⟨⟨⟩⟩ | ⟨_, _, ⟨⟩, _⟩)
        rfl

/-- Outcomes that are no failures can be compared where failures cannot. -/
lemma run_eq_ok_of_toOption {a : α} {x : ExceptT Failure (StateM World) α}
    (ok : (x.run.run w).1.toOption = some a) : x.run.run w = (.ok a, (x.run.run w).2) :=
  Prod.ext (toOption_eq_some_iff.1 ok) rfl

/-- An action that cannot fail has a result, with which the second goes on. -/
lemma lift_bind_run {y : StateM World β} {g : β → ExceptT Failure (StateM World) α} :
    (liftM y >>= g).run.run w = (g (y.run w).1).run.run (y.run w).2 := rfl

/-- An outcome as an action changes nothing. -/
lemma ofExcept_run (outcome : Except Failure α) :
    (liftM outcome : ExceptT Failure (StateM World) α).run.run w = (outcome, w) := by
  cases outcome with
  | ok a => rfl
  | error failure => rfl

/-- Adapting failures changes nothing but the failures. -/
lemma adapt_run (g : Failure → Failure) :
    (x.adapt g).run.run w = ((x.run.run w).1.mapError g, (x.run.run w).2) := rfl

/-- Asking for the outcome of an action does the action, and does not fail. -/
lemma outcome_run : (Session.outcome x).run.run w = (.ok (x.run.run w).1, (x.run.run w).2) := rfl

/-- Trouble that comes over an action is the failure of the action. -/
lemma risk_run {action : StateM World (Except Trouble α)} : (Session.risk action).run.run w =
    ((action.run w).1.mapError Failure.trouble, (action.run w).2) := rfl

end

/-! ## What actions keep -/

/-- Whatever world the action is done in, the world after it stands in a relation to it. -/
def Keeps (R : World → World → Prop) (x : StateM World α) : Prop := ∀ w, R w (x.run w).2

namespace Keeps
variable {R : World → World → Prop}

/-- The worlds of a run of the action stand in the relation. -/
lemma of_run {x : StateM World α} {a : α} (keeps : Keeps R x) (run : x.run w = (a, w')) :
    R w w' := by
  have kept := keeps w
  rwa [run] at kept

/-- What is kept in a strong sense is kept in a weaker one. -/
lemma imp {R' : World → World → Prop} {x : StateM World α} (keeps : Keeps R x)
    (weaker : ∀ {w w'}, R w w' → R' w w') : Keeps R' x := by
  intro w
  exact weaker (keeps w)

/-- To say of an action that it may fail changes nothing. -/
lemma lift {x : StateM World α} (keeps : Keeps R x) :
    Keeps R (liftM x : ExceptT Failure (StateM World) α).run :=
  keeps

/-- To call failures by other names changes nothing. -/
lemma adapt {x : ExceptT Failure (StateM World) α} (keeps : Keeps R x.run)
    (g : Failure → Failure) : Keeps R (x.adapt g).run :=
  keeps

/-- To stop for trouble changes nothing. -/
lemma risk {x : StateM World (Except Trouble α)} (keeps : Keeps R x) :
    Keeps R (Session.risk x).run :=
  keeps

section
variable [Std.Refl R]

/-- An action that leaves every world as it is. -/
lemma still {x : StateM World α} (still : ∀ w, (x.run w).2 = w) : Keeps R x := by
  intro w
  rw [still]
  exact refl_of R w

/-- A result without an action changes nothing. -/
lemma pureOk (a : α) : Keeps R (Pure.pure a : ExceptT Failure (StateM World) α).run :=
  fun w => refl_of R w

/-- To fail changes nothing. -/
lemma throw (failure : Failure) :
    Keeps R (throw failure : ExceptT Failure (StateM World) α).run :=
  fun w => refl_of R w

/-- An outcome without an action changes nothing. -/
lemma ofExcept (outcome : Except Failure α) :
    Keeps R (liftM outcome : ExceptT Failure (StateM World) α).run := by
  cases outcome with
  | ok a => exact pureOk a
  | error failure => exact throw failure

end

section
variable [IsTrans World R]

/-- Two actions keep what each of them keeps, whether the second is done or not. -/
lemma andThen {x : ExceptT Failure (StateM World) α} {f : α → ExceptT Failure (StateM World) β}
    (first : Keeps R x.run) (rest : ∀ a, Keeps R (f a).run) : Keeps R (x >>= f).run := by
  intro w
  have kept := first w
  rw [ExceptT.run_bind, StateT.run_bind]
  generalize x.run.run w = outcome at kept
  match outcome, kept with
  | (.ok a, w1), kept => exact trans_of R kept (rest a w1)
  | (.error failure, w1), kept => exact kept

end

end Keeps

end SchemaLint

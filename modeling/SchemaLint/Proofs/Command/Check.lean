import Mathlib
import SchemaLint.Proofs.Command.Session

/-!
# The ends of commands

A check ends in one of four ways: it has no report, it cannot write the report that it has, it cannot
say that it has written it, or it has done all of this. Only in the last of them it has the exit code of
a verdict.

The program has the exit code of its command. Where the command has none, as a failure has stopped it,
the program answers for the failure (`Program.Answers`).
-/

namespace SchemaLint

namespace World

variable {r : Resources} {v : Nat} {c : CheckSettings} {w w' : World} {outcome : Except Failure Nat}

/-! ## Checks -/

/-- How the check of a schema ends in a world: its outcome, and the world after it. -/
inductive CheckEnds (r : Resources) (v : Nat) (c : CheckSettings) (w : World) :
    Except Failure Nat → World → Prop
  | refused {failure : Failure} {outcome : Except Failure Nat} {w1 w' : World} :
    ((session r v).examine c).run.run w = (.error failure, w1) →
    w1.Alike w' → (∀ code, outcome = .ok code → code = 2) → CheckEnds r v c w outcome w'
  | undelivered {report : Report} {failure : Failure} {w1 w' : World} :
    ((session r v).examine c).run.run w = (.ok report, w1) →
    ((session r v).deliver c report).run.run w1 = (.error failure, w') →
    CheckEnds r v c w (.error failure) w'
  | unconcluded {report : Report} {failure : Failure} {w1 w2 w' : World} :
    ((session r v).examine c).run.run w = (.ok report, w1) →
    ((session r v).deliver c report).run.run w1 = (.ok (), w2) →
    ((session r v).conclude c report (w.isColored c.color)).run.run w2 = (.error failure, w') →
    CheckEnds r v c w (.error failure) w'
  | concluded {report : Report} {w1 w2 w' : World} :
    ((session r v).examine c).run.run w = (.ok report, w1) →
    ((session r v).deliver c report).run.run w1 = (.ok (), w2) →
    ((session r v).conclude c report (w.isColored c.color)).run.run w2 = (.ok (), w') →
    CheckEnds r v c w (.ok report.verdict.exitCode) w'

/-- A check that gives up tells no more than its problem. -/
lemma alike_of_giveUp {color : Bool} {failure : Failure}
    (run : ((session r v).giveUp color failure).run.run w = (outcome, w')) :
    w.Alike w' ∧ ∀ code, outcome = .ok code → code = 2 := by
  cases failure with
  | problem p =>
    have tells : OnlyTells (((session r v).giveUp color (.problem p))) :=
      (onlyTells_say r v _).bind fun _ => .pure 2
    refine ⟨tells.alike.of_run run, ?_⟩
    rintro code rfl
    obtain ⟨_, _, -, run⟩ := bind_run_eq_ok_iff.1 run
    cases run
    rfl
  | _ =>
    cases run
    exact ⟨refl_of Alike w, nofun⟩

/-- A check that has written its report only tells the user of it. -/
lemma onlyTells_conclude (r : Resources) (v : Nat) (c : CheckSettings) (report : Report)
    (color : Bool) : OnlyTells ((session r v).conclude c report color) := by
  unfold Session.conclude
  dsimp only
  split
  · exact (onlyTells_say r v _).bind fun _ => onlyTells_tell r v _
  · exact onlyTells_tell r v _

/-- A check ends in one of the four ways. -/
lemma checkEnds_of_run (run : ((session r v).check c).run.run w = (outcome, w')) :
    CheckEnds r v c w outcome w' := by
  unfold Session.check at run
  rw [lift_bind_run, isColored_run] at run
  dsimp only at run
  rw [ExceptT.run_bind, bind_run, outcome_run] at run
  generalize examined : StateT.run ((session r v).examine c).run w = examination at run
  match examination, examined with
  | (.error failure, w1), examined =>
    obtain ⟨alike, refuses⟩ := alike_of_giveUp run
    exact .refused examined alike refuses
  | (.ok report, w1), examined =>
    dsimp only at run
    rw [ExceptT.run_bind, bind_run] at run
    generalize delivered : StateT.run ((session r v).deliver c report).run w1 = delivery at run
    match delivery, delivered with
    | (.error failure, w2), delivered =>
      cases run
      exact .undelivered examined delivered
    | (.ok (), w2), delivered =>
      dsimp only at run
      rw [ExceptT.run_bind, bind_run] at run
      generalize concluded : StateT.run
        ((session r v).conclude c report (w.isColored c.color)).run w2 = conclusion at run
      match conclusion, concluded with
      | (.error failure, w3), concluded =>
        cases run
        exact .unconcluded examined delivered concluded
      | (.ok (), w3), concluded =>
        cases run
        exact .concluded examined delivered concluded

end World

/-! ## Runs of the program -/

/-- The exit code of a program of which a failure has stopped the command. -/
def Failure.exitCode : Failure → Nat
  | .trouble .interruption => 130
  | failure => if failure.isBrokenPipe then 0 else 2

namespace Program

variable {r : Resources} {v : Nat} {arguments : List String} {command : Command} {w w1 w' : World}
  {outcome : Except Failure Nat} {code : Nat}

/-- The program ends with a code where its command has an outcome: with the code of the command, else
with that of its failure, unless trouble comes over the program when this failure is told. -/
inductive Answers (w w' : World) : Except Failure Nat → Nat → Prop
  | done {code : Nat} : Answers w w' (.ok code) code
  | recovered {failure : Failure} : Answers w w' (.error failure) failure.exitCode
  | aborted {failure : Failure} {t : Trouble} :
    w.Met w' → Answers w w' (.error failure) (abort (.trouble t))

/-- What the program does when a failure has stopped its command tells no more than the failure, and
has the exit code of this. -/
lemma recover_run {failure : Failure}
    (run : ((World.session r v).recover failure).run.run w = (outcome, w')) :
    w.Alike w' ∧ (outcome = .ok failure.exitCode ∨
      w.Met w' ∧ ∃ t, outcome = .error (.trouble t)) := by
  have told (e : Event) (code : Nat) (run : (do
      (World.session r v).tell e
      return code : ExceptT Failure (StateM World) Nat).run.run w = (outcome, w')) :
      w.Alike w' ∧ (outcome = .ok code ∨ w.Met w' ∧ ∃ t, outcome = .error (.trouble t)) := by
    have tells := (World.onlyTells_tell r v e).bind fun _ => .pure code
    refine ⟨tells.alike.of_run run, ?_⟩
    cases outcome with
    | ok code' =>
      obtain ⟨_, _, -, run⟩ := bind_run_eq_ok_iff.1 run
      cases run
      exact .inl rfl
    | error failure =>
      obtain ⟨⟨t, rfl⟩, met⟩ := tells.trouble run
      exact .inr ⟨met, t, rfl⟩
  unfold Session.recover at run
  split at run
  · exact told _ 130 run
  · rename_i other
    have exits : failure.exitCode = if failure.isBrokenPipe then 0 else 2 := by
      unfold Failure.exitCode
      split
      · exact absurd rfl other
      · rfl
    rw [exits]
    split at run
    · rename_i broken
      rw [if_pos broken]
      cases run
      exact ⟨refl_of World.Alike w, .inl rfl⟩
    · rename_i whole
      rw [if_neg whole]
      exact told _ 2 run

/-- The exit code of the program changes nothing. -/
lemma run_snd : ((run (World.hostOn r) arguments).run w).2 =
    ((action (World.hostOn r) arguments).run.run w).2 := by
  rw [run, bind_run]
  generalize StateT.run (action (World.hostOn r) arguments).run w = done
  obtain ⟨outcome, w'⟩ := done
  cases outcome with
  | ok code => rfl
  | error failure => rfl

/-- The program does its command, and answers for its outcome. -/
lemma exists_run_of_perform (read : Settings.ofArguments arguments = .ok ⟨v, some command⟩)
    (performed : ((World.session r v).perform command).run.run w = (outcome, w1)) :
    ∃ code w', (run (World.hostOn r) arguments).run w = (code, w') ∧ w1.Alike w' ∧
      Answers w1 w' outcome code := by
  have completed : (action (World.hostOn r) arguments).run =
      ((World.session r v).complete command).run := by
    rw [action, read]
    rfl
  rw [run, bind_run, completed, Session.complete, ExceptT.run_bind, bind_run, outcome_run, performed]
  cases outcome with
  | ok code => exact ⟨code, w1, rfl, refl_of World.Alike w1, .done⟩
  | error failure =>
    dsimp only
    generalize recovered :
      StateT.run ((World.session r v).recover failure).run w1 = recovery
    obtain ⟨outcome, w'⟩ := recovery
    obtain ⟨alike, rfl | ⟨met, t, rfl⟩⟩ := recover_run recovered
    · exact ⟨_, w', rfl, alike, .recovered⟩
    · exact ⟨_, w', rfl, alike, .aborted met⟩

end Program

end SchemaLint

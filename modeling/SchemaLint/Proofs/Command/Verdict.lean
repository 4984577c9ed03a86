import Mathlib
import SchemaLint.Proofs.Command.Check
import SchemaLint.Proofs.Lint.Relax

/-!
# Verdicts

A verdict is monotone: it passes under relaxed options if it passed before. The exit code of a check
that writes a report tells its verdict, which is to fail exactly if an error is found. It has no exit
code if nobody takes the line that sums up the written report (`World.check_of_writes`).
-/

namespace SchemaLint

/-- The exit code 1 is that of a verdict to fail. -/
lemma Verdict.exitCode_eq_one_iff {x : Verdict} : x.exitCode = 1 ↔ x = .fail := by
  cases x with
  | pass => decide
  | fail => decide

/-- The exit code 0 is that of any other verdict. -/
lemma Verdict.exitCode_eq_zero_iff {x : Verdict} : x.exitCode = 0 ↔ x ≠ .fail := by
  cases x with
  | pass => decide
  | fail => decide

namespace World

variable {r : Resources} {v : Nat} {c : CheckSettings} {w w1 w' : World} {report : Report}

/-- The check of a schema reads these options and this document. -/
def Reads (r : Resources) (v : Nat) (c : CheckSettings) (w : World) (o : Options) (d : Sdl.Document)
    (source : String) : Prop :=
  ∃ w1 text w2, ((session r v).checkOptions c).run.run w = (.ok o, w1) ∧
    ((session r v).takeSchema c.schema).run.run w1 = (.ok (text, source), w2) ∧
    r.document text source = .ok d

/-- The check of a schema writes a report, and this is the world when it is written. -/
def Writes (r : Resources) (v : Nat) (c : CheckSettings) (w : World) (report : Report)
    (w' : World) : Prop :=
  ∃ w1, ((session r v).examine c).run.run w = (.ok report, w1) ∧
    ((session r v).deliver c report).run.run w1 = (.ok (), w')

/-- A check writes the report that it has if it can write it. -/
lemma writes_of_toOption
    (examined : (((session r v).examine c).run.run w).1.toOption = some report)
    (delivered : (((session r v).deliver c report).run.run
      (((session r v).examine c).run.run w).2).1.toOption = some ()) :
    Writes r v c w report (((session r v).deliver c report).run.run
      (((session r v).examine c).run.run w).2).2 :=
  ⟨_, run_eq_ok_of_toOption examined, run_eq_ok_of_toOption delivered⟩

/-- When the report is written, trouble keeps the check from saying so. -/
def FailsToConclude (r : Resources) (v : Nat) (c : CheckSettings) (w : World) (report : Report)
    (w1 : World) (failure : Failure) (w' : World) : Prop :=
  ((session r v).conclude c report (w.isColored c.color)).run.run w1 = (.error failure, w') ∧
    w1.Met w'

/-- The report of a check is that of the document that it reads. -/
lemma exists_reads_of_examine
    (examined : ((session r v).examine c).run.run w = (.ok report, w')) :
    ∃ o d source, Reads r v c w o d source ∧
      (Linter.standard o).lint d source = .ok report := by
  obtain ⟨o, w1, options, examined⟩ := bind_run_eq_ok_iff.1 examined
  obtain ⟨⟨text, source⟩, w2, schema, examined⟩ := bind_run_eq_ok_iff.1 examined
  obtain ⟨⟨outcome, seconds⟩, w3, timed, examined⟩ := bind_run_eq_ok_iff.1 examined
  dsimp only at examined
  cases eq_of_timed r v timed
  have linted : r.lint (.standard o) text source = .ok report := by
    split at examined
    · obtain ⟨_, w4, -, examined⟩ := bind_run_eq_ok_iff.1 examined
      rw [ofExcept_run] at examined
      exact congrArg Prod.fst examined
    · rw [ofExcept_run] at examined
      exact congrArg Prod.fst examined
  obtain ⟨d, parsed, linted⟩ := bind_eq_ok_iff.1 linted
  exact ⟨o, d, source, ⟨w1, text, w2, options, schema, parsed⟩, mapError_eq_ok_iff.1 linted⟩

/-- A check that writes a report has the exit code of its verdict, unless it fails to conclude. -/
lemma check_of_writes {outcome : Except Failure Nat} (writes : Writes r v c w report w1)
    (run : ((session r v).check c).run.run w = (outcome, w')) :
    outcome = .ok report.verdict.exitCode ∨
      ∃ failure, outcome = .error failure ∧ FailsToConclude r v c w report w1 failure w' := by
  obtain ⟨w0, examined, delivered⟩ := writes
  cases checkEnds_of_run run with
  | refused refused =>
    rw [examined] at refused
    cases refused
  | undelivered examined' undelivered =>
    rw [examined] at examined'
    cases examined'
    rw [delivered] at undelivered
    cases undelivered
  | unconcluded examined' delivered' unconcluded =>
    rw [examined] at examined'
    cases examined'
    rw [delivered] at delivered'
    cases delivered'
    have tells := onlyTells_conclude r v c report (w.isColored c.color)
    exact .inr ⟨_, rfl, unconcluded, (tells.trouble unconcluded).2⟩
  | concluded examined' =>
    rw [examined] at examined'
    cases examined'
    exact .inl rfl

/-- A check that writes a report reads a document, and the verdict on this is to fail if an error is
found in it. -/
lemma exists_findsError_iff_of_writes (writes : Writes r v c w report w1) :
    ∃ o d source table, Reads r v c w o d source ∧ Table.build d (some source) = .ok table ∧
      (report.verdict = .fail ↔ (Linter.standard o).FindsError d table) := by
  obtain ⟨_, examined, -⟩ := writes
  obtain ⟨o, d, source, reads, linted⟩ := exists_reads_of_examine examined
  obtain ⟨rules, ok, made⟩ := bind_eq_ok_iff.1 linted
  obtain ⟨table, built, -⟩ := bind_eq_ok_iff.1 made
  rw [Linter.lint_eq_ok ok built] at linted
  cases linted
  exact ⟨o, d, source, table, reads, built, Linter.verdict_eq_fail_iff ok⟩

end World

namespace Program

/-- A document with a type whose name is in lower case. -/
def day : Sdl.Document := ⟨[.type false ⟨"date", ⟨1, 8⟩⟩ .scalar], none⟩

/-- What is wrong with `day`. -/
def dayFinding (severity : Severity) : Diagnostic :=
  ⟨"TypeCasing", severity, "Type 'date' should be PascalCase", ⟨"date", none, none, 1, 8⟩,
    some "Date"⟩

/-- A world with a schema file and nothing else. -/
def dayWorld : World :=
  .initial [] ⟨[(["day.graphql"], .file "scalar date".toUTF8.toList)]⟩ [] [] []

/-- Nobody reads any more what the same check tells its user behind the report. -/
example :
    let pipe : Mishap := ⟨0, .fault (.other 32 "Broken pipe")⟩
    ((run World.host ["check", "day.graphql"]).run
      { dayWorld with mishaps := [none, none, some pipe] }).1 = 0 := by
  decide +kernel

end Program

end SchemaLint

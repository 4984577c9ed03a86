import Mathlib
import SchemaLint.Proofs.Command.Check
import SchemaLint.Proofs.Command.Output

/-!
# Files after a failure

A run of the program that fails leaves all files as they were, with one exception: it may have opened
the file that its command writes to, which empties it. It fails behind that if trouble comes over what
is left to do, or if it is a check that opens its output before it asks for the template of a page, and
no page can be made (`Program.files_of_failure`).
-/

namespace SchemaLint

namespace World

variable {r : Resources} {v : Nat} {w w1 w' : World} {path : Path} {place : List String}
  {bytes : List UInt8} {failure : Failure}

/-! ## Templates -/

/-- The environment names a template that cannot be read: to look for it fails, or it is a file that
is no text. -/
def HasUnreadableTemplate (w : World) : Prop :=
  ∃ named, w.valueOf? Session.templateVariable = some named ∧ named ≠ "" ∧
    ((∃ fault, w.kindOf (.ofText named) = .error fault ∧ fault.isAbsence = false) ∨
      ∃ bytes fault, w.tree.read w.here (.ofText named) = .ok bytes ∧
        Text.Utf8.decode bytes = .error fault)

/-- Telling changes no template. -/
lemma HasUnreadableTemplate.alike (unreadable : w.HasUnreadableTemplate) (alike : w.Alike w') :
    w'.HasUnreadableTemplate := by
  obtain ⟨out, err, n, rfl⟩ := alike
  exact unreadable

/-- A path leads to what it is found to lead to. -/
lemma kindAt?_eq_some {kind : PathKind} (leads : w.kindAt? path = .ok (some kind)) :
    path.hasNull = false ∧ w.kindOf path = .ok kind := by
  unfold kindAt? at leads
  split at leads
  · cases leads
  · rename_i no_null
    refine ⟨by simpa using no_null, ?_⟩
    split at leads
    · rename_i kind_eq
      cases leads
      exact kind_eq
    · split at leads
      · cases leads
      · cases leads

/-- A file can be read. -/
lemma exists_read_of_kindOf (file : w.kindOf path = .ok .file) :
    ∃ bytes, w.tree.read w.here path = .ok bytes := by
  obtain ⟨entry, found, kind⟩ := map_eq_ok_iff.1 file
  cases entry with
  | file bytes =>
    refine ⟨bytes, ?_⟩
    rw [FileTree.read, found]
    rfl
  | folder => cases kind
  | sink => cases kind

/-- Where a path leads to a file, what can go wrong is that this is no text. -/
lemma textAt_eq_error_of_file (file : w.kindAt? path = .ok (some .file))
    (failed : w.textAt path = .error failure) :
    ∃ bytes fault, w.tree.read w.here path = .ok bytes ∧ Text.Utf8.decode bytes = .error fault := by
  obtain ⟨no_null, file⟩ := kindAt?_eq_some file
  obtain ⟨bytes, read⟩ := exists_read_of_kindOf file
  rw [textAt, if_neg (Bool.eq_false_iff.1 no_null), read] at failed
  dsimp only at failed
  unfold Session.decodeText at failed
  split at failed
  · cases failed
  · rename_i fault decoded
    exact ⟨bytes, fault, read, decoded⟩

/-- The template for pages: the text of the file that the environment names, if it is one. -/
def templateOf (w : World) : Except Failure (Option String) :=
  match (w.valueOf? Session.templateVariable).filter (· ≠ "") with
  | none => .ok none
  | some named => do
    if (← w.kindAt? (.ofText named)) = some .file then
      return some (← w.textAt (.ofText named))
    else return none

/-- What is taken as the template is the template. -/
lemma pageTemplate_run :
    ((session r v).pageTemplate none).run.run w = (w.templateOf, w) := by
  unfold Session.pageTemplate templateOf
  dsimp only [Option.filter_none]
  rw [lift_bind_run, environment_run]
  dsimp only
  cases (w.valueOf? Session.templateVariable).filter (· ≠ "") with
  | none => rfl
  | some named =>
    dsimp only
    rw [ExceptT.run_bind, bind_run, kind?_run]
    cases w.kindAt? (.ofText named) with
    | error failure => rfl
    | ok kind =>
      dsimp only
      by_cases file : kind = some .file
      · subst file
        rw [if_pos rfl, ExceptT.run_bind, bind_run, readText_run]
        cases w.textAt (.ofText named) with
        | error failure => rfl
        | ok text => rfl
      · change _ = (if kind = some .file then _ else _, w)
        rw [if_neg file, if_neg file]
        rfl

/-- There is no template because of a failure only if the one that is named cannot be read. -/
lemma hasUnreadableTemplate_of_templateOf (failed : w.templateOf = .error failure) :
    w.HasUnreadableTemplate := by
  unfold templateOf at failed
  split at failed
  · cases failed
  · rename_i named filtered
    obtain ⟨named_eq, ne⟩ : w.valueOf? Session.templateVariable = some named ∧ named ≠ "" := by
      simpa [Option.filter_eq_some_iff] using filtered
    cases leads : w.kindAt? (.ofText named) with
    | error cause =>
      -- to look for the template fails
      obtain ⟨fault, kind, present, -⟩ := kindAt?_eq_error leads
      exact ⟨named, named_eq, ne, .inl ⟨fault, kind, present⟩⟩
    | ok kind =>
      -- the template is a file that is no text
      rw [leads] at failed
      change (if kind = some .file then _ else _) = _ at failed
      split at failed
      · rename_i file
        cases text : w.textAt (.ofText named) with
        | ok text =>
          rw [text] at failed
          cases failed
        | error cause =>
          rw [file] at leads
          exact ⟨named, named_eq, ne, .inr (textAt_eq_error_of_file leads text)⟩
      · cases failed

/-- A template is the text of the file that the environment names. -/
lemma exists_textAt_of_templateOf {template : String} (taken : w.templateOf = .ok (some template)) :
    ∃ named, w.valueOf? Session.templateVariable = some named ∧
      w.textAt (.ofText named) = .ok template := by
  unfold templateOf at taken
  split at taken
  · cases taken
  · rename_i named filtered
    obtain ⟨kind, leads, taken⟩ := bind_eq_ok_iff.1 taken
    split at taken
    · obtain ⟨text, read, taken⟩ := bind_eq_ok_iff.1 taken
      cases taken
      exact ⟨named, (Option.filter_eq_some_iff.1 filtered).1, read⟩
    · cases taken

/-- No page can be made of a report: the template for it cannot be read, or the renderer of templates
breaks down on it. -/
inductive LacksPage (r : Resources) (report : Report) (w : World) : Prop
  | unreadable : w.HasUnreadableTemplate → LacksPage r report w
  | breakdown {named template : String} {b : Breakdown} :
    w.valueOf? Session.templateVariable = some named → w.textAt (.ofText named) = .ok template →
    r.fillTemplate template report.content = .error b → LacksPage r report w

/-- Telling makes no page. -/
lemma LacksPage.alike {report : Report} (lacks : LacksPage r report w) (alike : w.Alike w') :
    LacksPage r report w' := by
  cases lacks with
  | unreadable unreadable => exact .unreadable (unreadable.alike alike)
  | breakdown named text failed =>
    obtain ⟨_, _, _, rfl⟩ := alike
    exact .breakdown named text failed

/-! ## Reports -/

variable {c : CheckSettings} {report : Report}

/-- The text of a report for an output. -/
def renderingOf (r : Resources) (c : CheckSettings) (report : Report) (output : Output) (w : World) :
    Except Failure String :=
  match c.format with
  | .html => do
    match ← w.templateOf with
    | none => return report.page
    | some template => r.page template report
  | .text =>
    .ok (report.render .text (if output = .stream then w.isColored c.color else false) none)
  | format => .ok (report.render format false none)

/-- What is written of a report is its text for the output. -/
lemma rendering_run (output : Output) : ((session r v).rendering c report output).run.run w =
    (renderingOf r c report output w, w) := by
  unfold Session.rendering renderingOf
  cases c.format with
  | html =>
    dsimp only
    rw [ExceptT.run_bind, bind_run, pageTemplate_run]
    cases w.templateOf with
    | error failure => rfl
    | ok template =>
      cases template with
      | none => rfl
      | some template => exact ofExcept_run _
  | text =>
    dsimp only
    split
    · rfl
    · rfl
  | _ => rfl

/-- Only of a page it may be that it cannot be made. -/
lemma lacksPage_of_renderingOf {output : Output}
    (failed : renderingOf r c report output w = .error failure) :
    c.format = .html ∧ LacksPage r report w := by
  unfold renderingOf at failed
  split at failed
  · rename_i page
    refine ⟨page, ?_⟩
    cases taken : w.templateOf with
    | error cause => exact .unreadable (hasUnreadableTemplate_of_templateOf taken)
    | ok template =>
      rw [taken] at failed
      cases template with
      | none => cases failed
      | some template =>
        obtain ⟨named, named_eq, text⟩ := exists_textAt_of_templateOf taken
        obtain ⟨b, breakdown, -⟩ := mapError_eq_error_iff.1 failed
        exact .breakdown named_eq text breakdown
  · cases failed
  · cases failed

/-- The delivery of a report touches no file but its output. If the delivery fails when this is open,
trouble has come over it, or there is no page to fill the output, which is empty. -/
lemma deliver_cases {outcome : Except Failure Unit}
    (run : ((session r v).deliver c report).run.run w = (outcome, w')) :
    w.Spares w' ∨ ∃ path bytes, w.outputPath? c.output = some path ∧ w.Opens w' path bytes ∧
      ∀ failure, outcome = .error failure →
        w.Met w' ∨ bytes = [] ∧ c.format = .html ∧ LacksPage r report w' := by
  rw [Session.deliver, ExceptT.run_bind, bind_run] at run
  generalize opening : StateT.run ((session r v).openOutput c.output).run w = opened at run
  obtain ⟨opened, w1⟩ := opened
  have opens := opensOutput_of_run opening
  cases opened with
  | error failure =>
    cases run
    cases opens with
    | refused spares => exact .inl spares
  | ok output =>
    dsimp only at run
    rw [ExceptT.run_bind, bind_run, rendering_run] at run
    cases rendered : renderingOf r c report output w1 with
    | error failure =>
      -- the output is open, and there is nothing to fill it
      rw [rendered] at run
      cases run
      obtain ⟨page, lacks⟩ := lacksPage_of_renderingOf rendered
      cases opens with
      | stream => exact .inl (refl_of Spares w)
      | file leads opens =>
        exact .inr ⟨_, [], leads, opens, fun _ _ => .inr ⟨rfl, page, lacks⟩⟩
    | ok text =>
      rw [rendered] at run
      obtain ⟨fills, met⟩ := fills_of_put opens run
      have later := opens.later
      cases fills with
      | spared spares => exact .inl spares
      | file leads opens =>
        exact .inr ⟨_, _, leads, opens, fun failure failed => .inl (later.met (met failure failed))⟩

/-! ## Commands -/

/-- The path of the file that a command writes to, if it writes to one. -/
def target? (w : World) : Command → Option Path
  | .check c => w.outputPath? c.output
  | .rules s => w.outputPath? s.output
  | .init i => some (.ofText ((i.output.filter (· ≠ "")).getD ".gqlstyle.yml"))

/-- A command of the first world has opened the file that it writes to, and fails in the second: all
other files are as they were. Either trouble has come over the command, or it is a check that can make
no page of its report, and the file is empty. -/
inductive LosesOutput (r : Resources) (v : Nat) (w : World) : Command → World → Prop
  | trouble {command : Command} {path : Path} {place : List String} {bytes : List UInt8}
    {w' : World} :
    w.target? command = some path → w.Touches w' path place bytes → w.Met w' →
    LosesOutput r v w command w'
  | page {c : CheckSettings} {report : Report} {path : Path} {place : List String} {w1 w' : World} :
    w.target? (.check c) = some path → w.Touches w' path place [] → c.format = .html →
    ((session r v).examine c).run.run w = (.ok report, w1) → LacksPage r report w' →
    LosesOutput r v w (.check c) w'

variable {command : Command} {outcome : Except Failure Nat}

/-- Telling of a failure changes nothing of what is lost. -/
lemma LosesOutput.alike (loses : LosesOutput r v w command w1) (alike : w1.Alike w') :
    LosesOutput r v w command w' := by
  have touched {path : Path} {place : List String} {bytes : List UInt8}
      (touches : w.Touches w1 path place bytes) : w.Touches w' path place bytes := by
    have later := alike.later
    obtain ⟨_, _, _, rfl⟩ := alike
    exact ⟨touches.here, touches.leads, touches.file, touches.others,
      trans_of Later touches.later later⟩
  cases loses with
  | trouble target touches met =>
    exact .trouble target (touched touches) (met.trans_later alike.later)
  | page target touches format examined lacks =>
    exact .page target (touched touches) format examined (lacks.alike alike)

/-- A file that is open, and over which trouble has come, is lost unless it is a sink. -/
lemma sameFiles_or_losesOutput_of_met (target : w.target? command = some path)
    (opens : w.Opens w' path bytes) (met : w.Met w') :
    w.SameFiles w' ∨ LosesOutput r v w command w' := by
  cases opens with
  | sink spares => exact .inl spares.toSameFiles
  | file touches => exact .inr (.trouble target touches met)

/-- A check that has no exit code of a verdict touches no file, or loses its output. -/
lemma check_cases (run : ((session r v).check c).run.run w = (outcome, w')) :
    (w.SameFiles w' ∨ LosesOutput r v w (.check c) w') ∨
      ∃ verdict : Verdict, outcome = .ok verdict.exitCode := by
  have target {w1 : World} (alike : w.Alike w1) : w.target? (.check c) = w1.outputPath? c.output := by
    obtain ⟨_, _, _, rfl⟩ := alike
    rfl
  cases checkEnds_of_run run with
  | refused examined alike =>
    exact .inl (.inl (trans_of Spares ((keeps_examine r v c).of_run examined).spares
      alike.spares).toSameFiles)
  | undelivered examined undelivered =>
    have alike := (keeps_examine r v c).of_run examined
    rcases deliver_cases undelivered with spares | ⟨path, bytes, leads, opens, fails⟩
    · exact .inl (.inl (trans_of Spares alike.spares spares).toSameFiles)
    · have opens := alike.spares.opens opens
      rcases fails _ rfl with met | ⟨rfl, format, lacks⟩
      · exact .inl (sameFiles_or_losesOutput_of_met ((target alike).trans leads) opens
          (alike.later.met met))
      · cases opens with
        | sink spares => exact .inl (.inl spares.toSameFiles)
        | file touches =>
          exact .inl (.inr (.page ((target alike).trans leads) touches format examined lacks))
  | @unconcluded report _ _ _ _ examined delivered unconcluded =>
    have alike := (keeps_examine r v c).of_run examined
    have tells := onlyTells_conclude r v c report (w.isColored c.color)
    have told := tells.alike.of_run unconcluded
    obtain ⟨-, met⟩ := tells.trouble unconcluded
    rcases deliver_cases delivered with spares | ⟨path, bytes, leads, opens, -⟩
    · exact .inl (.inl (trans_of Spares alike.spares
        (trans_of Spares spares told.spares)).toSameFiles)
    · have later := trans_of Later alike.later opens.later
      exact .inl (sameFiles_or_losesOutput_of_met ((target alike).trans leads)
        ((alike.spares.opens opens).alike told) (later.met met))
  | concluded => exact .inr ⟨_, rfl⟩

/-- The list of rules is written, or the command touches no file, or it loses its output. -/
lemma rules_cases {s : RulesSettings}
    (run : ((session r v).rules s).run.run w = (outcome, w')) :
    (w.SameFiles w' ∨ LosesOutput r v w (.rules s) w') ∨ outcome = .ok 0 := by
  rw [Session.rules, ExceptT.run_bind, bind_run] at run
  generalize opening : StateT.run ((session r v).openOutput s.output).run w = opened at run
  obtain ⟨opened, w1⟩ := opened
  have opens := opensOutput_of_run opening
  cases opened with
  | error failure =>
    cases run
    cases opens with
    | refused spares => exact .inl (.inl spares.toSameFiles)
  | ok output =>
    cases outcome with
    | ok code =>
      obtain ⟨_, w2, -, run⟩ := bind_run_eq_ok_iff.1 run
      cases run
      exact .inr rfl
    | error failure =>
      rcases bind_run_eq_error_iff.1 run with run | ⟨_, w2, -, run⟩
      · obtain ⟨fills, met⟩ := fills_of_put opens run
        have later := opens.later
        cases fills with
        | spared spares => exact .inl (.inl spares.toSameFiles)
        | file leads opens =>
          exact .inl (sameFiles_or_losesOutput_of_met leads opens (later.met (met _ rfl)))
      · cases run

/-- What is told of the writing of a configuration touches no file. -/
lemma onlyTells_tell_code (e : Event) (code : Nat) : OnlyTells (do
    (session r v).tell e
    return code : ExceptT Failure (StateM World) Nat) :=
  (onlyTells_tell r v e).bind fun _ => .pure code

/-- A configuration is written, or no file is touched, or trouble has come over the file that it was to
be written to. -/
lemma writeSample_cases {force : Bool}
    (run : ((session r v).writeSample path force).run.run w = (outcome, w')) :
    w.Spares w' ∨ ∃ bytes, w.Opens w' path bytes ∧ (outcome = .ok 0 ∨ w.Met w') := by
  unfold Session.writeSample at run
  rw [ExceptT.run_bind, bind_run, kind?_run] at run
  cases kind : w.kindAt? path with
  | error failure =>
    rw [kind] at run
    cases run
    exact .inl (refl_of Spares w)
  | ok found =>
    rw [kind] at run
    dsimp only at run
    split at run
    · -- there is a file already
      exact .inl ((onlyTells_tell_code _ 1).alike.of_run run).spares
    · split at run
      · cases run
        exact .inl (refl_of Spares w)
      · have truncate : ((session r v).host.truncate path).run w =
            w.change (w.tree.truncate w.here path) := rfl
        rw [lift_bind_run, truncate] at run
        cases emptied : w.tree.truncate w.here path with
        | error fault =>
          rw [emptied] at run
          exact .inl ((onlyTells_tell_code _ 2).alike.of_run run).spares
        | ok tree =>
          -- from here on the file is open
          rw [emptied] at run
          dsimp only [change] at run
          obtain ⟨appended, w1, bytes, append, opens, met⟩ :=
            append_cases (r := r) (opens_of_truncate emptied) Options.sample
          have met : ∀ trouble, appended = .error trouble → w.Met w1 := met
          have append : ((session r v).host.append path Options.sample).run { w with tree } =
            (appended, w1) := append
          rw [lift_bind_run, append] at run
          dsimp only at run
          match appended, met with
          | .ok (), _ =>
            have tells : OnlyTells (do
                (session r v).say s!"Created: {path.text}\n"
                return 0 : ExceptT Failure (StateM World) Nat) :=
              (onlyTells_say r v _).bind fun _ => .pure 0
            refine .inr ⟨bytes, opens.alike (tells.alike.of_run run), ?_⟩
            cases outcome with
            | ok code =>
              obtain ⟨_, _, -, run⟩ := bind_run_eq_ok_iff.1 run
              cases run
              exact .inl rfl
            | error failure => exact .inr (opens.later.met (tells.trouble run).2)
          | .error (.fault fault), met =>
            have alike := (onlyTells_tell_code _ 2).alike.of_run run
            exact .inr ⟨bytes, opens.alike alike, .inr ((met _ rfl).trans_later alike.later)⟩
          | .error .interruption, met =>
            cases run
            exact .inr ⟨bytes, opens, .inr (met _ rfl)⟩
          | .error (.breakdown b), met =>
            cases run
            exact .inr ⟨bytes, opens, .inr (met _ rfl)⟩

/-- A command touches no file, or loses its output, or has an exit code of success. -/
lemma perform_cases (run : ((session r v).perform command).run.run w = (outcome, w')) :
    (w.SameFiles w' ∨ LosesOutput r v w command w') ∨ ∃ code ≠ 2, outcome = .ok code := by
  cases command with
  | check c =>
    rcases check_cases run with lost | ⟨verdict, rfl⟩
    · exact .inl lost
    · refine .inr ⟨_, ?_, rfl⟩
      cases verdict with
      | pass => decide
      | fail => decide
  | rules s =>
    rcases rules_cases run with lost | rfl
    · exact .inl lost
    · exact .inr ⟨0, by decide, rfl⟩
  | init i =>
    rcases writeSample_cases run with spares | ⟨bytes, opens, rfl | met⟩
    · exact .inl (.inl spares.toSameFiles)
    · exact .inr ⟨0, by decide, rfl⟩
    · exact .inl (sameFiles_or_losesOutput_of_met rfl opens met)

end World

namespace Program

/-- A run of the program that fails leaves all files as they were, unless its command loses the file
that it writes to. -/
theorem files_of_failure (r : Resources) (w : World) (arguments : List String)
    (failed : ((run (World.hostOn r) arguments).run w).1 = 2) :
    w.SameFiles ((run (World.hostOn r) arguments).run w).2 ∨
    ∃ v command, Settings.ofArguments arguments = .ok ⟨v, some command⟩ ∧
      World.LosesOutput r v w command ((run (World.hostOn r) arguments).run w).2 := by
  cases read : Settings.ofArguments arguments with
  | error stop =>
    have tells : World.OnlyTells (action (World.hostOn r) arguments) := by
      rw [action, read]
      exact (World.onlyTells_print r 0 .out stop.out).bind fun _ =>
        (World.onlyTells_print r 0 .err stop.err).bind fun _ => .pure stop.exit
    rw [run_snd]
    exact .inl (tells.alike w).spares.toSameFiles
  | ok settings =>
    obtain ⟨v, command⟩ := settings
    cases command with
    | none =>
      have tells : World.OnlyTells (action (World.hostOn r) arguments) := by
        rw [action, read]
        exact (World.onlyTells_print r v .err Help.programHelp).bind fun _ => .pure 2
      rw [run_snd]
      exact .inl (tells.alike w).spares.toSameFiles
    | some command =>
      generalize performed : StateT.run ((World.session r v).perform command).run w = performance
      obtain ⟨outcome, w1⟩ := performance
      obtain ⟨code, w', run, alike, answers⟩ := exists_run_of_perform read performed
      rw [run] at failed ⊢
      dsimp only at failed ⊢
      rcases World.perform_cases performed with (same | loses) | ⟨code', ne, rfl⟩
      · exact .inl ⟨alike.spares.here.trans same.here,
          fun place => (alike.spares.files place).trans (same.files place)⟩
      · exact .inr ⟨v, command, rfl, loses.alike alike⟩
      · cases answers
        exact absurd failed ne

/-- A world with a schema, with an earlier page, and with a template that is no text. -/
def pageWorld : World :=
  .initial [] ⟨[(["s.graphql"], .file "scalar Date".toUTF8.toList),
      (["out.html"], .file "kept".toUTF8.toList), (["t.html"], .file [0xff])]⟩
    [] [("GQLSTYLE_HTML_TEMPLATE", "t.html")] []

/-- The check of a schema that is not there keeps the earlier page. -/
theorem files_of_failure_missing :
    let arguments := ["check", "missing.graphql", "-o", "out.html"]
    ((run World.host arguments).run pageWorld).1 = 2 ∧
    pageWorld.SameFiles ((run World.host arguments).run pageWorld).2 := by
  intro arguments
  have failed : ((run World.host arguments).run pageWorld).1 = 2 := by decide +kernel
  refine ⟨failed, ?_⟩
  rcases files_of_failure .standard pageWorld arguments failed with same | ⟨v, command, read, loses⟩
  · exact same
  · have text : Settings.ofArguments arguments = .ok ⟨0, some (.check
        { CheckSettings.default with schema := "missing.graphql", output := some "out.html" })⟩ :=
      rfl
    rw [text] at read
    cases read
    cases loses with
    | trouble _ _ met => exact absurd met (World.not_met_of_mishaps_eq_nil rfl)
    | page _ _ page => cases page

/-- The check that is to make a page fails and empties the earlier one. -/
theorem template_empties_output :
    let arguments := ["check", "s.graphql", "-f", "html", "-o", "out.html"]
    ((run World.host arguments).run pageWorld).1 = 2 ∧
    ¬ pageWorld.SameFiles ((run World.host arguments).run pageWorld).2 := by
  intro arguments
  refine ⟨by decide +kernel, fun same => ?_⟩
  have emptied : ((run World.host arguments).run pageWorld).2.tree.bytesAt? ["out.html"] =
      some [] := by decide +kernel
  have kept : pageWorld.tree.bytesAt? ["out.html"] = some "kept".toUTF8.toList := by decide +kernel
  rw [same.files, kept] at emptied
  exact absurd emptied (by decide +kernel)

/-- So does a check whose template is a text that cannot be filled. -/
example :
    let r : Resources :=
      { Resources.standard with
        fillTemplate := fun _ _ => .error ⟨"TemplateSyntaxError", "Unexpected end of template."⟩ }
    let w : World :=
      .initial [] ⟨[(["s.graphql"], .file "scalar Date".toUTF8.toList),
          (["out.html"], .file "kept".toUTF8.toList), (["t.html"], .file "\x7b%".toUTF8.toList)]⟩
        [] [("GQLSTYLE_HTML_TEMPLATE", "t.html")] []
    let done := (run (World.hostOn r) ["check", "s.graphql", "-f", "html", "-o", "out.html"]).run w
    done.1 = 2 ∧ done.2.tree.bytesAt? ["out.html"] = some [] := by
  decide +kernel

end Program

end SchemaLint

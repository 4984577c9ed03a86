import Mathlib
import SchemaLint.Proofs.Command.Session
import SchemaLint.Proofs.Options.Failures

/-!
# Failures of the entry points

Options are read of a map of entries, of a file or of the file that is found, and a schema file is
linted. With any resources, none of this fails by anything but a problem, apart from a short list of
failures that are let through (`World.failures_of_entryPoints`). Among them are a file that is no text,
and whatever breaks down in the libraries.
-/

namespace SchemaLint.World

variable {r : Resources} {v : Nat} {w w1 w' : World} {failure : Failure} {path : String}

/-! ## Reading of files -/

/-- The failures that reading a file may let through: the path holds a null character, or the bytes of
the file are no text. -/
inductive ReadEscapes (w : World) (path : Path) : Failure → Prop
  | null : path.hasNull = true → ReadEscapes w path .nullInPath
  | undecodable {bytes : List UInt8} {fault : Text.Utf8.Fault} :
    path.hasNull = false → w.tree.read w.here path = .ok bytes →
    Text.Utf8.decode bytes = .error fault → ReadEscapes w path (.undecodable fault)

/-- A file has no text as the file system refuses it, or as it lets a failure through. -/
lemma failure_of_textAt {p : Path} (failed : w.textAt p = .error failure) :
    (∃ fault, failure = .file fault p.text) ∨ w.ReadEscapes p failure := by
  unfold textAt at failed
  split at failed
  · rename_i null
    cases failed
    exact .inr (.null null)
  · rename_i no_null
    split at failed
    · rename_i bytes read
      unfold Session.decodeText at failed
      split at failed
      · cases failed
      · rename_i fault decoded
        cases failed
        exact .inr (.undecodable (by simpa using no_null) read decoded)
    · rename_i fault read
      cases failed
      exact .inl ⟨fault, rfl⟩

/-- What a file lets through is the failure of reading it. -/
lemma ReadEscapes.textAt_eq {p : Path} (escapes : w.ReadEscapes p failure) :
    w.textAt p = .error failure := by
  unfold textAt
  cases escapes with
  | null null => rw [if_pos null]
  | undecodable no_null read decoded =>
    rw [if_neg (Bool.eq_false_iff.1 no_null), read]
    dsimp only
    rw [Session.decodeText, decoded]

/-- What is let through is no problem. -/
lemma ReadEscapes.not_isProblem {p : Path} (escapes : w.ReadEscapes p failure) :
    ¬ failure.IsProblem := by
  rintro ⟨problem, rfl⟩
  cases escapes

/-- What is let through is not made a problem of the schema. -/
lemma ReadEscapes.unreadableSchema_eq {p : Path} (escapes : w.ReadEscapes p failure) :
    Session.unreadableSchema path failure = failure := by
  cases escapes with
  | null _ => rfl
  | undecodable _ _ _ => rfl

/-- What is let through is not made a problem of the configuration. -/
lemma ReadEscapes.unreadableConfiguration_eq {p : Path} (escapes : w.ReadEscapes p failure) :
    Session.unreadableConfiguration path failure = failure := by
  cases escapes with
  | null _ => rfl
  | undecodable _ _ _ => rfl

/-! ## Schema files -/

/-- A schema file is read, and what the file system refuses is a problem. -/
lemma readSchema_run (path : String) : ((session r v).readSchema path).run.run w =
    ((w.textAt (.ofText path)).mapError (Session.unreadableSchema path), w) := by
  rw [Session.readSchema, adapt_run, readText_run]

/-- The failures that linting a schema file lets through: those of reading it, and a breakdown of the
parser on its text. -/
inductive LintEscapes (r : Resources) (w : World) (path : String) : Failure → Prop
  | read {failure : Failure} : w.ReadEscapes (.ofText path) failure → LintEscapes r w path failure
  | breakdown {text : String} {b : Breakdown} :
    w.textAt (.ofText path) = .ok text → r.parse text path = .error b →
    LintEscapes r w path (.trouble (.breakdown b))

/-- A text is linted, or this fails by a problem, or the parser breaks down on the text. -/
lemma lint_eq_error_iff {l : Linter} {text source : String} :
    r.lint l text source = .error failure ∧ ¬ failure.IsProblem ↔
      ∃ b, r.parse text source = .error b ∧ failure = .trouble (.breakdown b) := by
  constructor
  · rintro ⟨failed, not_problem⟩
    rcases bind_eq_error_iff.1 failed with failed | ⟨d, -, failed⟩
    · rcases bind_eq_error_iff.1 failed with failed | ⟨read, -, failed⟩
      · obtain ⟨b, parsed, rfl⟩ := mapError_eq_error_iff.1 failed
        exact ⟨b, parsed, rfl⟩
      · rcases bind_eq_error_iff.1 failed with failed | ⟨d, -, failed⟩
        · obtain ⟨p, -, rfl⟩ := mapError_eq_error_iff.1 failed
          exact absurd ⟨p, rfl⟩ not_problem
        · obtain ⟨p, -, rfl⟩ := mapError_eq_error_iff.1 failed
          exact absurd ⟨p, rfl⟩ not_problem
    · obtain ⟨p, -, rfl⟩ := mapError_eq_error_iff.1 failed
      exact absurd ⟨p, rfl⟩ not_problem
  · rintro ⟨b, parsed, rfl⟩
    rw [Resources.lint, Resources.document, parsed]
    exact ⟨rfl, by rintro ⟨_, ⟨⟩⟩⟩

/-- To lint a schema file fails by a problem, or by a failure that is let through. -/
lemma lintFile_eq_error_iff {o : Options} :
    (((session r v).lintFile o path).run.run w).1 = .error failure ∧ ¬ failure.IsProblem ↔
      LintEscapes r w path failure := by
  unfold Session.lintFile
  rw [ExceptT.run_bind, bind_run, readSchema_run]
  cases read : w.textAt (.ofText path) with
  | ok text =>
    dsimp only [Except.mapError]
    rw [ofExcept_run]
    refine lint_eq_error_iff.trans ?_
    constructor
    · rintro ⟨b, parsed, rfl⟩
      exact .breakdown read parsed
    · intro escapes
      cases escapes with
      | read escapes =>
        rw [escapes.textAt_eq] at read
        cases read
      | breakdown read' parsed =>
        rw [read'] at read
        cases read
        exact ⟨_, parsed, rfl⟩
  | error cause =>
    dsimp only [Except.mapError]
    constructor
    · rintro ⟨failed, not_problem⟩
      cases failed
      rcases failure_of_textAt read with ⟨fault, rfl⟩ | escapes
      · exact absurd ⟨_, rfl⟩ not_problem
      · rw [escapes.unreadableSchema_eq]
        exact .read escapes
    · intro escapes
      cases escapes with
      | read escapes =>
        rw [escapes.textAt_eq] at read
        cases read
        rw [escapes.unreadableSchema_eq]
        exact ⟨rfl, escapes.not_isProblem⟩
      | breakdown read' _ =>
        rw [read'] at read
        cases read

/-! ## Configuration files -/

/-- The failures that reading a configuration file may let through: those of reading the file, a
breakdown of the reader of YAML on its text, and those of what is read of the text. -/
inductive ConfigurationEscapes (r : Resources) (w : World) (path : String) : Failure → Prop
  | read {failure : Failure} :
    w.ReadEscapes (.ofText path) failure → ConfigurationEscapes r w path failure
  | breakdown {text : String} {b : Breakdown} :
    w.textAt (.ofText path) = .ok text → r.readYaml text = .error b →
    ConfigurationEscapes r w path (.trouble (.breakdown b))
  | value {text : String} {read : Except Yaml.Fault Value} {failure : Failure} :
    w.textAt (.ofText path) = .ok text → r.readYaml text = .ok read →
    Options.ReadEscapes r.room read failure → ConfigurationEscapes r w path failure

/-- Trouble has come over what was told between two worlds, and is not passed over. -/
def Interrupts (w w' : World) (failure : Failure) : Prop :=
  (∃ t, failure = .trouble t) ∧ w.Met w'

/-- To read a configuration file fails by a problem of the configuration, or as the file lets a failure
through, or by trouble that comes over what is told of it. -/
lemma failure_of_readOptions
    (failed : ((session r v).readOptions path).run.run w = (.error failure, w')) :
    failure.IsOfOptions ∨ ConfigurationEscapes r w path failure ∨ w.Interrupts w' failure := by
  rcases bind_run_eq_error_iff.1 failed with failed | ⟨text, w1, read, failed⟩
  · rw [adapt_run, readText_run] at failed
    obtain ⟨cause, read, rfl⟩ := mapError_eq_error_iff.1 (congrArg Prod.fst failed)
    rcases failure_of_textAt read with ⟨fault, rfl⟩ | escapes
    · exact .inl ⟨_, rfl, rfl⟩
    · rw [escapes.unreadableConfiguration_eq]
      exact .inr (.inl (.read escapes))
  · rw [adapt_run, readText_run] at read
    obtain rfl : w = w1 := congrArg Prod.snd read
    have read := mapError_eq_ok_iff.1 (congrArg Prod.fst read)
    rcases bind_run_eq_error_iff.1 failed with failed | ⟨_, w2, -, failed⟩
    · exact .inr (.inr ((onlyTells_tell r v _).trouble failed))
    · rw [ofExcept_run] at failed
      have failed : r.options text path = .error failure := congrArg Prod.fst failed
      unfold Resources.options Resources.answer at failed
      cases yaml : r.readYaml text with
      | error b =>
        rw [yaml] at failed
        cases failed
        exact .inr (.inl (.breakdown read yaml))
      | ok value =>
        rw [yaml] at failed
        rcases Options.failure_of_ofRead failed with known | escapes
        · exact .inl known
        · exact .inr (.inl (.value read yaml escapes))

/-- A configuration file that is no text lets this through. -/
lemma loadOptions_of_readEscapes (escapes : w.ReadEscapes (.ofText path) failure) :
    ((session r v).loadOptions (some path)).run.run w = (.error failure, w) := by
  refine bind_run_eq_error_iff.2 (.inl ?_)
  rw [adapt_run, readText_run, escapes.textAt_eq]
  dsimp only [Except.mapError]
  rw [escapes.unreadableConfiguration_eq]

/-- The failures of the search for a configuration file: nobody knows a home folder that is named, the
file system refuses to tell what is there, or the current folder is gone. -/
inductive SearchEscapes (w : World) : Failure → Prop
  | homeless : SearchEscapes w .homeless
  | file {fault : FileFault} {path : Path} :
    w.kindOf path = .error fault → SearchEscapes w (.file fault path.text)
  | gone {fault : FileFault} :
    w.findFolder = .error fault → SearchEscapes w (.trouble (.fault fault))

/-- A home folder is missing. -/
lemma searchEscapes_of_expand {p : Path} (failed : w.expand p = .error failure) :
    w.SearchEscapes failure := by
  unfold expand at failed
  split at failed
  · cases failed
  · split at failed
    · cases failed
    · cases failed
      exact .homeless

/-- The file system refuses to tell what is there, by induction on the paths. -/
lemma searchEscapes_of_firstFile {paths : List Path}
    (failed : ((session r v).firstFile paths).run.run w = (.error failure, w')) :
    w.SearchEscapes failure := by
  induction paths with
  | nil => cases failed
  | cons p rest ih =>
    rcases bind_run_eq_error_iff.1 failed with failed | ⟨kind, w1, leads, failed⟩
    · rw [kind?_run] at failed
      obtain ⟨fault, kind, -, rfl⟩ := kindAt?_eq_error (congrArg Prod.fst failed)
      exact .file kind
    · rw [kind?_run] at leads
      obtain ⟨-, rfl⟩ := Prod.mk.inj leads
      split at failed
      · cases failed
      · exact ih failed

/-- The search for a configuration file fails by one of its failures. -/
lemma searchEscapes_of_findConfiguration
    (failed : (session r v).findConfiguration.run.run w = (.error failure, w')) :
    w.SearchEscapes failure := by
  unfold Session.findConfiguration at failed
  rw [lift_bind_run, environment_run] at failed
  dsimp only at failed
  split at failed
  · rcases bind_run_eq_error_iff.1 failed with failed | ⟨path, w1, -, failed⟩
    · rw [expandHome_run] at failed
      exact searchEscapes_of_expand (congrArg Prod.fst failed)
    · cases failed
  · rcases bind_run_eq_error_iff.1 failed with failed | ⟨here, w1, found, failed⟩
    · rw [here_run] at failed
      obtain ⟨fault, gone, rfl⟩ := mapError_eq_error_iff.1 (congrArg Prod.fst failed)
      exact .gone gone
    · rw [here_run] at found
      obtain ⟨-, rfl⟩ := Prod.mk.inj found
      exact searchEscapes_of_firstFile failed

/-- The configuration file that counts: the one that is named, or one that is found. -/
inductive Configures (r : Resources) (v : Nat) (w : World) : Option String → String → Prop
  | named {path : String} : Configures r v w (some path) path
  | found {p : Path} {w1 : World} :
    (session r v).findConfiguration.run.run w = (.ok (some p), w1) → Configures r v w none p.text

/-- A file lets through what it would have let through before it was found. -/
lemma ConfigurationEscapes.of_alike (alike : w.Alike w1)
    (escapes : ConfigurationEscapes r w1 path failure) : ConfigurationEscapes r w path failure := by
  obtain ⟨out, err, n, rfl⟩ := alike
  cases escapes with
  | read escapes =>
    cases escapes with
    | null null => exact .read (.null null)
    | undecodable no_null stored decoded => exact .read (.undecodable no_null stored decoded)
  | breakdown read yaml => exact .breakdown read yaml
  | value read yaml escapes => exact .value read yaml escapes

/-- To load options fails by a problem of the configuration, or in the search for a configuration file,
or as the file that counts lets a failure through, or by trouble that comes over what is told. -/
lemma failure_of_loadOptions {named : Option String}
    (failed : ((session r v).loadOptions named).run.run w = (.error failure, w')) :
    failure.IsOfOptions ∨
    (∃ path, Configures r v w named path ∧ ConfigurationEscapes r w path failure) ∨
    (named = none ∧ w.SearchEscapes failure) ∨ w.Interrupts w' failure := by
  cases named with
  | some path =>
    rcases failure_of_readOptions failed with known | escapes | interrupts
    · exact .inl known
    · exact .inr (.inl ⟨path, .named, escapes⟩)
    · exact .inr (.inr (.inr interrupts))
  | none =>
    rcases bind_run_eq_error_iff.1 failed with failed | ⟨found, w1, search, failed⟩
    · exact .inr (.inr (.inl ⟨rfl, searchEscapes_of_findConfiguration failed⟩))
    · have alike := (keeps_findConfiguration r v).of_run search
      cases found with
      | none =>
        rcases bind_run_eq_error_iff.1 failed with failed | ⟨_, w2, -, failed⟩
        · obtain ⟨trouble, met⟩ := (onlyTells_tell r v _).trouble failed
          exact .inr (.inr (.inr ⟨trouble, alike.later.met met⟩))
        · cases failed
      | some p =>
        rcases failure_of_readOptions failed with known | escapes | ⟨trouble, met⟩
        · exact .inl known
        · exact .inr (.inl ⟨p.text, .found search, escapes.of_alike alike⟩)
        · exact .inr (.inr (.inr ⟨trouble, alike.later.met met⟩))

/-- A world with a file that is no text, and nothing else. -/
def noiseWorld : World := .initial [] ⟨[(["noise"], .file [0xff])]⟩ [] [] []

/-- The file that is no text lets a failure through. -/
lemma exists_readEscapes_noise : ∃ failure, noiseWorld.ReadEscapes (.ofText "noise") failure := by
  have read : noiseWorld.tree.read noiseWorld.here (.ofText "noise") = .ok [0xff] :=
    toOption_eq_some_iff.1 (by decide +kernel)
  cases decoded : Text.Utf8.decode [0xff] with
  | ok text =>
    have none : (Text.Utf8.decode [0xff]).toOption = none := by decide +kernel
    rw [decoded] at none
    cases none
  | error fault => exact ⟨_, .undecodable (by decide +kernel) read decoded⟩

/-- Resources whose reader of YAML takes a date where there is none, and breaks down. -/
def dateResources : Resources :=
  { Resources.standard with
    readYaml := fun text =>
      if text = "jobs: 2020-13-45" then .error ⟨"ValueError", "month must be in 1..12"⟩
      else Resources.standard.readYaml text }

/-- A world with such a configuration, and nothing else. -/
def dateWorld : World :=
  .initial [] ⟨[(["c.yml"], .file "jobs: 2020-13-45".toUTF8.toList)]⟩ [] [] []

/-- A configuration that is not there is a problem. -/
lemma loadOptions_missing :
    ((session .standard 0).loadOptions (some "c.yml")).run.run noiseWorld =
      (.error (.problem (.ofOptions (.unreadable FileFault.notFound.reason) (.ofSource "c.yml"))),
        noiseWorld) := rfl

/-- A configuration on which the reader of YAML breaks down lets this through. -/
lemma loadOptions_date :
    ((session dateResources 0).loadOptions (some "c.yml")).run.run dateWorld =
      (.error (.trouble (.breakdown ⟨"ValueError", "month must be in 1..12"⟩)), dateWorld) := by
  have text : dateWorld.textAt (.ofText "c.yml") = .ok "jobs: 2020-13-45" :=
    toOption_eq_some_iff.1 (by decide +kernel)
  have yaml : dateResources.readYaml "jobs: 2020-13-45" =
      .error ⟨"ValueError", "month must be in 1..12"⟩ := by
    simp [dateResources]
  change ((session dateResources 0).readOptions "c.yml").run.run dateWorld = _
  rw [Session.readOptions, ExceptT.run_bind, bind_run, adapt_run, readText_run, text]
  change (dateResources.options "jobs: 2020-13-45" "c.yml", dateWorld) = _
  rw [Resources.options, yaml]
  rfl

end SchemaLint.World

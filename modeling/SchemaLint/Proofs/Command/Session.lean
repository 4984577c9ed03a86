import Mathlib
import SchemaLint.Proofs.Command.Action

/-!
# Sessions of worlds

Most of what a session does changes nothing of a world but what is written to its streams, and the
mishaps that are still to come (`World.Alike`): there is one lemma for each of these actions. Those that
only tell fail by nothing but trouble that comes over them (`World.OnlyTells`).

All this holds with any resources.
-/

namespace SchemaLint

variable {α β : Type} {w w' : World}

namespace World

/-! ## Mishaps -/

/-- The mishaps that the second world has before it are those of the first, but for some that have
been. -/
def Later (w w' : World) : Prop := ∃ n, w'.mishaps = w.mishaps.drop n

/-- Trouble has come over what was done between two worlds: a mishap that the first had before it is
behind the second. -/
def Met (w w' : World) : Prop :=
  ∃ n mishap, w'.mishaps = w.mishaps.drop n ∧ some mishap ∈ w.mishaps.take n

instance : Std.Refl Later where
  refl _ := ⟨0, rfl⟩

instance : IsTrans World Later where
  trans := by
    rintro w w1 w' ⟨n, first⟩ ⟨m, second⟩
    exact ⟨n + m, by rw [second, first, List.drop_drop]⟩

/-- Where trouble has come, something has happened. -/
lemma Met.later (met : w.Met w') : w.Later w' := by
  obtain ⟨n, _, mishaps, _⟩ := met
  exact ⟨n, mishaps⟩

/-- Trouble that comes over the second of two actions comes over both. -/
lemma Later.met {w1 : World} (later : w.Later w1) (met : w1.Met w') : w.Met w' := by
  obtain ⟨n, before⟩ := later
  obtain ⟨m, mishap, after, mem⟩ := met
  refine ⟨n + m, mishap, by rw [after, before, List.drop_drop], ?_⟩
  rw [List.take_add, ← before]
  exact List.mem_append_right _ mem

/-- Trouble that comes over the first of two actions comes over both. -/
lemma Met.trans_later {w1 : World} (met : w.Met w1) (later : w1.Later w') : w.Met w' := by
  obtain ⟨n, mishap, before, mem⟩ := met
  obtain ⟨m, after⟩ := later
  refine ⟨n + m, mishap, by rw [after, before, List.drop_drop], ?_⟩
  rw [List.take_add]
  exact List.mem_append_left _ mem

/-- A world without mishaps meets no trouble. -/
lemma not_met_of_mishaps_eq_nil (none : w.mishaps = []) : ¬ w.Met w' := by
  rintro ⟨n, mishap, -, mem⟩
  rw [none, List.take_nil] at mem
  cases mem

/-- A command that waits has either what it waits for, and all of that is done, or trouble, and some of
it is done. -/
lemma await_cases (w : World) (result : α) (done : World → Option Nat → World) :
    w.await result done = (.ok result, done { w with mishaps := w.mishaps.drop 1 } none) ∨
    ∃ mishap, w.mishaps.head? = some (some mishap) ∧ w.await result done =
      (.error mishap.trouble, done { w with mishaps := w.mishaps.drop 1 } (some mishap.done)) := by
  unfold await
  rw [List.drop_one]
  cases mishaps : w.mishaps with
  | nil => exact .inl rfl
  | cons first rest =>
    cases first with
    | none => exact .inl rfl
    | some mishap => exact .inr ⟨mishap, rfl, rfl⟩

/-- Trouble comes over a command that waits where a mishap stands next. -/
lemma met_of_head? {mishap : Mishap} (next : w.mishaps.head? = some (some mishap))
    (mishaps : w'.mishaps = w.mishaps.drop 1) : w.Met w' := by
  refine ⟨1, mishap, mishaps, ?_⟩
  cases eq : w.mishaps with
  | nil =>
    rw [eq] at next
    cases next
  | cons first rest =>
    rw [eq] at next
    cases next
    exact List.mem_cons_self

/-! ## Sessions -/

/-- The worlds differ in nothing but what has been written to their streams, and in mishaps that have
been. -/
def Alike (w w' : World) : Prop :=
  ∃ out err n, w' = { w with out, err, mishaps := w.mishaps.drop n }

instance : Std.Refl Alike where
  refl w := ⟨w.out, w.err, 0, rfl⟩

instance : IsTrans World Alike where
  trans := by
    rintro w _ _ ⟨_, _, n, rfl⟩ ⟨out, err, m, rfl⟩
    exact ⟨out, err, n + m, by simp only [List.drop_drop]⟩

/-- A world that is alike is a later one. -/
lemma Alike.later (alike : w.Alike w') : w.Later w' := by
  obtain ⟨_, _, n, rfl⟩ := alike
  exact ⟨n, rfl⟩

/-- The session of a world with some resources. -/
def session (resources : Resources) (verbosity : Nat) : Session (StateM World) :=
  ⟨hostOn resources, verbosity⟩

/-- The action does nothing but tell: it changes nothing but what is written to the streams, and it
fails only by trouble that comes over it. -/
structure OnlyTells (x : ExceptT Failure (StateM World) α) : Prop where
  alike : Keeps Alike x.run
  trouble : ∀ {w w' failure}, x.run.run w = (.error failure, w') →
    (∃ t, failure = .trouble t) ∧ w.Met w'

namespace OnlyTells
variable {x : ExceptT Failure (StateM World) α}

/-- To do nothing tells nothing. -/
lemma pure (a : α) : OnlyTells (pure a : ExceptT Failure (StateM World) α) where
  alike := Keeps.pureOk a
  trouble := nofun

/-- To ask the world for something tells nothing. -/
lemma lift {y : StateM World α} (still : ∀ w, (y.run w).2 = w) :
    OnlyTells (liftM y : ExceptT Failure (StateM World) α) where
  alike := Keeps.lift (Keeps.still still)
  trouble := nofun

/-- Two actions do nothing but tell if each of them does. -/
lemma bind {f : α → ExceptT Failure (StateM World) β} (first : OnlyTells x)
    (rest : ∀ a, OnlyTells (f a)) : OnlyTells (x >>= f) where
  alike := first.alike.andThen fun a => (rest a).alike
  trouble := by
    intro w w' failure failed
    rcases bind_run_eq_error_iff.1 failed with failed | ⟨a, w1, ok, failed⟩
    · exact first.trouble failed
    · obtain ⟨trouble, met⟩ := (rest a).trouble failed
      exact ⟨trouble, (first.alike.of_run ok).later.met met⟩

end OnlyTells

variable (r : Resources) (v : Nat)

/-! ### Telling -/

/-- Writing to a stream changes no more than that, and is kept from it only by trouble that comes over
it. -/
lemma write_cases (stream : Stream) (text : String) (w : World) :
    ∃ outcome w', ((hostOn r).write stream text).run w = (outcome, w') ∧ w.Alike w' ∧
      ∀ trouble, outcome = .error trouble → w.Met w' := by
  have alike (limit : Option Nat) :
      w.Alike (({ w with mishaps := w.mishaps.drop 1 } : World).write stream text limit) := by
    cases stream with
    | out => exact ⟨_, _, 1, rfl⟩
    | err => exact ⟨_, _, 1, rfl⟩
  have mishaps (limit : Option Nat) :
      (({ w with mishaps := w.mishaps.drop 1 } : World).write stream text limit).mishaps =
        w.mishaps.drop 1 := by
    cases stream with
    | out => rfl
    | err => rfl
  rcases await_cases w () fun after limit => after.write stream text limit with
    run | ⟨mishap, next, run⟩
  · exact ⟨_, _, run, alike none, nofun⟩
  · exact ⟨_, _, run, alike _, fun _ _ => met_of_head? next (mishaps _)⟩

/-- Whatever is told after something has been written, no more than telling is done. -/
lemma onlyTells_write_bind {stream : Stream} {text : String}
    {f : Except Trouble Unit → ExceptT Failure (StateM World) α} (ok : OnlyTells (f (.ok ())))
    (passed : ∀ trouble, Keeps Alike (f (.error trouble)).run)
    (failed : ∀ trouble w w' failure, (f (.error trouble)).run.run w = (.error failure, w') →
      ∃ t, failure = .trouble t) :
    OnlyTells (liftM ((hostOn r).write stream text) >>= f) where
  alike := by
    intro w
    obtain ⟨outcome, w1, run, alike, -⟩ := write_cases r stream text w
    rw [lift_bind_run, run]
    cases outcome with
    | ok _ => exact trans_of Alike alike (ok.alike w1)
    | error trouble => exact trans_of Alike alike (passed trouble w1)
  trouble := by
    intro w w' failure stopped
    obtain ⟨outcome, w1, run, alike, met⟩ := write_cases r stream text w
    rw [lift_bind_run, run] at stopped
    cases outcome with
    | ok _ =>
      obtain ⟨trouble, later⟩ := ok.trouble stopped
      exact ⟨trouble, alike.later.met later⟩
    | error trouble =>
      exact ⟨failed trouble w1 w' failure stopped,
        (met trouble rfl).trans_later ((passed trouble).of_run stopped).later⟩

/-- What is said to the user is written. -/
lemma onlyTells_risk_write (stream : Stream) (text : String) :
    OnlyTells (Session.risk ((hostOn r).write stream text)) where
  alike := by
    intro w
    obtain ⟨outcome, w1, run, alike, -⟩ := write_cases r stream text w
    rw [risk_run, run]
    exact alike
  trouble := by
    intro w w' failure stopped
    obtain ⟨outcome, w1, run, alike, met⟩ := write_cases r stream text w
    rw [risk_run, run] at stopped
    obtain ⟨failed, rfl⟩ := Prod.mk.inj stopped
    obtain ⟨trouble, rfl, rfl⟩ := mapError_eq_error_iff.1 failed
    exact ⟨⟨trouble, rfl⟩, met trouble rfl⟩

/-- Text is told to the user. -/
lemma onlyTells_say (text : String) : OnlyTells ((session r v).say text) :=
  onlyTells_risk_write r .err text

/-- Text is printed, as far as possible. -/
lemma onlyTells_print (stream : Stream) (text : String) :
    OnlyTells ((session r v).print stream text) := by
  unfold Session.print
  split
  · refine onlyTells_write_bind r (.pure ()) (fun trouble => ?_) fun trouble w w' failure failed => ?_
    · split
      · exact Keeps.pureOk ()
      · exact Keeps.pureOk ()
      · exact Keeps.throw _
    · split at failed
      · cases failed
      · cases failed
      · cases failed
        exact ⟨_, rfl⟩
  · exact .pure ()

/-- That an event could not be told is told. -/
lemma onlyTells_complain (reason : String) : OnlyTells ((session r v).complain reason) :=
  onlyTells_print r v .err _

/-- An event is told. -/
lemma onlyTells_tell (e : Event) : OnlyTells ((session r v).tell e) := by
  unfold Session.tell
  split
  · refine (OnlyTells.lift fun _ => rfl).bind fun time => ?_
    refine onlyTells_write_bind r (.pure ()) (fun trouble => ?_) fun trouble w w' failure failed => ?_
    · split
      · exact Keeps.pureOk ()
      · exact Keeps.throw _
      · exact (onlyTells_complain r v _).alike
    · split at failed
      · cases failed
      · cases failed
        exact ⟨_, rfl⟩
      · exact ((onlyTells_complain r v _).trouble failed).1
  · exact .pure ()

/-- That an event cannot be written is told. -/
lemma onlyTells_tellUnwritten (level : EventLevel) (fault : WriteFault) :
    OnlyTells ((session r v).tellUnwritten level fault) := by
  unfold Session.tellUnwritten
  split
  · exact onlyTells_complain r v _
  · exact .pure ()

/-- Events are told, by induction on them. -/
lemma onlyTells_tellAll (events : List Event) : OnlyTells ((session r v).tellAll events) := by
  unfold Session.tellAll
  induction events with
  | nil => exact .pure ()
  | cons e events ih => exact (onlyTells_tell r v e).bind fun _ => ih

/-! ### Reading -/

/-- The variables of the environment are those of the world. -/
lemma environment_run (name : String) :
    ((session r v).host.environment name).run w = (w.valueOf? name, w) := rfl

/-- The files are those of the world. -/
lemma read_run (path : Path) :
    ((session r v).host.read path).run w = (w.tree.read w.here path, w) := rfl

/-- A path leads to what it leads to in the world. -/
lemma kind_run (path : Path) : ((session r v).host.kind path).run w = (w.kindOf path, w) := rfl

/-- The current folder is that of the world, if it is still there. -/
lemma here_run : (session r v).here.run.run w =
    (w.findFolder.mapError fun fault => .trouble (.fault fault), w) := rfl

/-- Text on a stream of a world is coloured in a mode. -/
def isColored (w : World) (mode : ColorMode) : Bool :=
  mode.decide (w.valueOf? "NO_COLOR").isSome false

/-- Whether text is coloured is a matter of the environment. -/
lemma isColored_run (mode : ColorMode) (stream : Stream) :
    ((session r v).isColored mode stream).run w = (w.isColored mode, w) := rfl

/-- The text of a file. -/
def textAt (w : World) (path : Path) : Except Failure String :=
  if path.hasNull then .error .nullInPath
  else
    match w.tree.read w.here path with
    | .ok bytes => Session.decodeText bytes
    | .error fault => .error (.file fault path.text)

/-- What is read of a file is its text. -/
lemma readText_run (path : Path) :
    ((session r v).readText path).run.run w = (w.textAt path, w) := by
  unfold Session.readText textAt
  dsimp only
  split
  · rfl
  · rw [lift_bind_run, read_run]
    dsimp only
    cases w.tree.read w.here path with
    | ok bytes => exact ofExcept_run _
    | error fault => rfl

/-- What a path leads to, if it leads to anything. -/
def kindAt? (w : World) (path : Path) : Except Failure (Option PathKind) :=
  if path.hasNull then .ok none
  else
    match w.kindOf path with
    | .ok kind => .ok (some kind)
    | .error fault => if fault.isAbsence then .ok none else .error (.file fault path.text)

/-- What a path is found to lead to is what it leads to. -/
lemma kind?_run (path : Path) : ((session r v).kind? path).run.run w = (w.kindAt? path, w) := by
  unfold Session.kind? kindAt?
  split
  · rfl
  · rw [lift_bind_run, kind_run]
    dsimp only
    cases w.kindOf path with
    | ok kind => rfl
    | error fault =>
      dsimp only
      split
      · rfl
      · rfl

/-- What a path leads to is not found out if the file system refuses to tell. -/
lemma kindAt?_eq_error {path : Path} {failure : Failure} (failed : w.kindAt? path = .error failure) :
    ∃ fault, w.kindOf path = .error fault ∧ fault.isAbsence = false ∧
      failure = .file fault path.text := by
  unfold kindAt? at failed
  split at failed
  · cases failed
  · split at failed
    · cases failed
    · rename_i fault kind
      split at failed
      · cases failed
      · rename_i present
        cases failed
        exact ⟨fault, kind, by simpa using present, rfl⟩

/-- The home folder of an account. The environment may name that of the user. -/
def homeFor? (w : World) (owner : String) : Option String :=
  match w.valueOf? "HOME" with
  | some home => if owner = "" then some home else w.homeOf? owner
  | none => w.homeOf? owner

/-- The home folder that is found of an account is the one that it has. -/
lemma homeOf?_run (owner : String) :
    ((session r v).homeOf? owner).run w = (w.homeFor? owner, w) := by
  rw [Session.homeOf?, bind_run, environment_run, homeFor?]
  cases w.valueOf? "HOME" with
  | none => rfl
  | some home =>
    dsimp only
    split
    · rfl
    · rfl

/-- The path with a home folder in place of a tilde. -/
def expand (w : World) (p : Path) : Except Failure Path :=
  match p.homeOwner? with
  | none => .ok p
  | some owner =>
    match (w.homeFor? owner).bind p.inHome with
    | some path => .ok path
    | none => .error .homeless

/-- A home folder is put in place of a tilde. -/
lemma expandHome_run (p : Path) : ((session r v).expandHome p).run.run w = (w.expand p, w) := by
  unfold Session.expandHome expand
  cases p.homeOwner? with
  | none => rfl
  | some owner =>
    dsimp only
    rw [lift_bind_run, homeOf?_run]
    dsimp only
    cases (w.homeFor? owner).bind p.inHome with
    | none => rfl
    | some path => rfl

/-! ### What reading keeps -/

/-- To read a file changes nothing. -/
lemma keeps_readText (path : Path) : Keeps Alike ((session r v).readText path).run :=
  Keeps.still fun _ => congrArg Prod.snd (readText_run r v path)

/-- To find out what a path leads to changes nothing. -/
lemma keeps_kind? (path : Path) : Keeps Alike ((session r v).kind? path).run :=
  Keeps.still fun _ => congrArg Prod.snd (kind?_run r v path)

/-- To find a home folder changes nothing. -/
lemma keeps_expandHome (p : Path) : Keeps Alike ((session r v).expandHome p).run :=
  Keeps.still fun _ => congrArg Prod.snd (expandHome_run r v p)

/-- To find the current folder changes nothing. -/
lemma keeps_here : Keeps Alike (session r v).here.run :=
  Keeps.still fun _ => congrArg Prod.snd (here_run r v)

/-- To wait for something that changes nothing leaves the world as it was, but for a mishap. -/
lemma alike_await (w : World) (a : α) : w.Alike (w.await a fun after _ => after).2 := by
  rcases await_cases w a fun after _ => after with run | ⟨_, _, run⟩
  · rw [run]
    exact ⟨w.out, w.err, 1, rfl⟩
  · rw [run]
    exact ⟨w.out, w.err, 1, rfl⟩

/-- To wait for the input changes nothing. -/
lemma keeps_input : Keeps Alike (hostOn r).input := fun w => alike_await w w.input

/-- To wait for a computation changes nothing. -/
lemma keeps_timed (f : Unit → α) : Keeps Alike ((hostOn r).timed f) :=
  fun w => alike_await w (f (), "<t>")

/-- A computation that is waited for has its value. -/
lemma eq_of_timed {f : Unit → α} {a : α} {seconds : String}
    (run : (Session.risk ((session r v).host.timed f)).run.run w = (.ok (a, seconds), w')) :
    a = f () := by
  have waits : (Session.risk ((session r v).host.timed f)).run.run w =
      ((w.await (f (), "<t>") fun after _ => after).1.mapError .trouble,
        (w.await (f (), "<t>") fun after _ => after).2) := rfl
  rw [waits] at run
  rcases await_cases w (f (), "<t>") fun after _ => after with ok | ⟨_, _, error⟩
  · rw [ok] at run
    cases run
    rfl
  · rw [error] at run
    cases run

/-- To take the input as a text changes nothing. -/
lemma keeps_inputText : Keeps Alike (session r v).inputText.run :=
  (keeps_input r).risk.andThen fun _ => Keeps.ofExcept _

/-! ### Configurations -/

/-- To look for a file changes nothing, by induction on the paths. -/
lemma keeps_firstFile (paths : List Path) : Keeps Alike ((session r v).firstFile paths).run := by
  induction paths with
  | nil => exact Keeps.pureOk none
  | cons p rest ih =>
    refine (keeps_kind? r v p).andThen fun kind => ?_
    split
    · exact Keeps.pureOk _
    · exact ih

/-- To look for a configuration file in the current folder changes nothing. -/
lemma keeps_findInFolder : Keeps Alike (session r v).findInFolder.run :=
  (keeps_here r v).andThen fun _ => keeps_firstFile r v _

/-- To look for a configuration file changes nothing. -/
lemma keeps_findConfiguration : Keeps Alike (session r v).findConfiguration.run := by
  refine Keeps.andThen (Keeps.lift (Keeps.still fun _ => rfl)) fun named => ?_
  split
  · exact (keeps_expandHome r v _).andThen fun path => Keeps.pureOk _
  · exact keeps_findInFolder r v

/-- To read a configuration file changes nothing but what is told of it. -/
lemma keeps_readOptions (path : String) : Keeps Alike ((session r v).readOptions path).run := by
  refine Keeps.andThen (Keeps.adapt (keeps_readText r v _) _) fun text => ?_
  exact (onlyTells_tell r v _).alike.andThen fun _ => Keeps.ofExcept _

/-- To load options changes nothing but what is told of it. -/
lemma keeps_loadOptions (named : Option String) :
    Keeps Alike ((session r v).loadOptions named).run := by
  cases named with
  | some path => exact keeps_readOptions r v path
  | none =>
    refine (keeps_findConfiguration r v).andThen fun found => ?_
    cases found with
    | some path => exact keeps_readOptions r v path.text
    | none => exact (onlyTells_tell r v _).alike.andThen fun _ => Keeps.pureOk _

/-- The options of a check are found without a change but for what is told of them. -/
lemma keeps_checkOptions (c : CheckSettings) : Keeps Alike ((session r v).checkOptions c).run := by
  refine (keeps_loadOptions r v _).andThen fun options => ?_
  split
  · exact Keeps.throw _
  · dsimp only
    split
    · exact (onlyTells_tell r v _).alike.andThen fun _ => Keeps.pureOk _
    · exact (onlyTells_tellUnwritten r v _ _).alike.andThen fun _ => Keeps.pureOk _

/-! ### Schemas -/

/-- To take a schema changes nothing. -/
lemma keeps_takeSchema (named : String) : Keeps Alike ((session r v).takeSchema named).run := by
  unfold Session.takeSchema
  split
  · exact (keeps_inputText r v).andThen fun text => Keeps.pureOk _
  · refine Keeps.andThen (Keeps.adapt (Keeps.adapt (keeps_readText r v _) _) _) fun text => ?_
    exact Keeps.pureOk _

/-- A check gets at its report without a change but for what is told of it. -/
lemma keeps_examine (c : CheckSettings) : Keeps Alike ((session r v).examine c).run := by
  refine (keeps_checkOptions r v c).andThen fun options => ?_
  refine (keeps_takeSchema r v c.schema).andThen fun schema => ?_
  refine (keeps_timed r _).risk.andThen fun timed => ?_
  dsimp only
  split
  · exact (onlyTells_tellAll r v _).alike.andThen fun _ => Keeps.ofExcept _
  · exact Keeps.ofExcept _

end World

end SchemaLint

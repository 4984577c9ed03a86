import Mathlib
import SchemaLint.Proofs.Command.Session
import SchemaLint.Proofs.Files.Tree

/-!
# Outputs

Nothing that a command does touches a file, apart from opening one for writing, which empties it, and
from writing to it. What is left of the files says `World.Touches`: all are as they were but for the one
that is open.
-/

namespace SchemaLint

namespace World

/-- The worlds have the same files, with the same bytes in them, and the same current folder. -/
structure SameFiles (w w' : World) : Prop where
  here : w'.here = w.here
  files : ∀ place, w'.tree.bytesAt? place = w.tree.bytesAt? place

/-- The second world is a later one with the same files. -/
structure Spares (w w' : World) : Prop extends SameFiles w w' where
  later : w.Later w'

/-- The second world is a later one with the same files but for one at a path, which holds some
bytes. -/
structure Touches (w w' : World) (path : Path) (place : List String) (bytes : List UInt8) :
    Prop where
  here : w'.here = w.here
  leads : w'.tree.find w'.here path = .ok place
  file : w'.tree.bytesAt? place = some bytes
  others : ∀ q ≠ place, w'.tree.bytesAt? q = w.tree.bytesAt? q
  later : w.Later w'

/-- The second world is a later one in which a path is open for writing, and all other files are as
they were. At the path is a file that holds some bytes, or a sink. -/
inductive Opens (w w' : World) (path : Path) (bytes : List UInt8) : Prop
  | sink : w.Spares w' → (∀ more, w'.tree.append w'.here path more = w'.tree) →
    Opens w w' path bytes
  | file {place : List String} : w.Touches w' path place bytes → Opens w w' path bytes

instance : Std.Refl Spares where
  refl w := ⟨⟨rfl, fun _ => rfl⟩, refl_of Later w⟩

instance : IsTrans World Spares where
  trans _ _ _ first second :=
    ⟨⟨second.here.trans first.here, fun place => (second.files place).trans (first.files place)⟩,
      trans_of Later first.later second.later⟩

variable {r : Resources} {v : Nat} {w w1 w' : World} {path : Path} {place : List String}
  {bytes : List UInt8} {failure : Failure}

/-- Telling touches no file. -/
lemma Alike.spares (alike : w.Alike w') : w.Spares w' := by
  have later := alike.later
  obtain ⟨out, err, n, rfl⟩ := alike
  exact ⟨⟨rfl, fun _ => rfl⟩, later⟩

/-- What is touched later is the only file that is touched, if none was before. -/
lemma Spares.touches (spares : w.Spares w1) (touches : w1.Touches w' path place bytes) :
    w.Touches w' path place bytes where
  here := touches.here.trans spares.here
  leads := touches.leads
  file := touches.file
  others q other := (touches.others q other).trans (spares.files q)
  later := trans_of Later spares.later touches.later

/-- What is opened later is the only file that is opened, if none was before. -/
lemma Spares.opens (spares : w.Spares w1) (opens : w1.Opens w' path bytes) :
    w.Opens w' path bytes := by
  cases opens with
  | sink same keeps => exact .sink (trans_of Spares spares same) keeps
  | file touches => exact .file (spares.touches touches)

/-- Telling leaves a file that is open as it is. -/
lemma Opens.alike (opens : w.Opens w1 path bytes) (alike : w1.Alike w') :
    w.Opens w' path bytes := by
  have later := alike.later
  have spares := alike.spares
  obtain ⟨_, _, _, rfl⟩ := alike
  cases opens with
  | sink same keeps => exact .sink (trans_of Spares same spares) keeps
  | file touches =>
    exact .file ⟨touches.here, touches.leads, touches.file, touches.others,
      trans_of Later touches.later later⟩

/-- A world with an open file is later than the one in which it was opened. -/
lemma Opens.later (opens : w.Opens w' path bytes) : w.Later w' := by
  cases opens with
  | sink spares => exact spares.later
  | file touches => exact touches.later

/-! ## Folders -/

/-- To make a folder touches no file. -/
lemma keeps_hostMakeFolder (path : Path) : Keeps Spares ((hostOn r).makeFolder path) := by
  intro w
  change w.Spares (w.change (w.tree.makeFolder w.here path)).2
  unfold change
  split
  · rename_i made
    exact ⟨⟨rfl, fun _ => FileTree.bytesAt?_makeFolder made⟩, 0, rfl⟩
  · exact refl_of Spares w

/-- To find out whether a folder that could not be made is there touches no file. -/
lemma keeps_excuse (fault : FileFault) (path : Path) :
    Keeps Spares ((session r v).excuse fault path).run := by
  refine ((keeps_kind? r v path).imp Alike.spares).andThen fun kind => ?_
  split
  · exact Keeps.throw _
  · exact Keeps.pureOk ()

/-- To make a folder in another one touches no file. -/
lemma keeps_makeFolder (path : Path) : Keeps Spares ((session r v).makeFolder path).run := by
  refine Keeps.andThen (Keeps.lift (keeps_hostMakeFolder path)) fun made => ?_
  split
  · exact Keeps.pureOk ()
  · exact Keeps.throw _
  · exact keeps_excuse _ path

/-- To make folders touches no file, whatever comes of it. -/
lemma keeps_makeFolders (fuel : Nat) (path : Path) :
    Keeps Spares ((session r v).makeFolders fuel path).run := by
  induction fuel generalizing path with
  | zero => exact keeps_makeFolder path
  | succ fuel ih =>
    refine Keeps.andThen (Keeps.lift (keeps_hostMakeFolder path)) fun made => ?_
    split
    · exact Keeps.pureOk ()
    · exact (ih path.parent).andThen fun _ => keeps_makeFolder path
    · exact keeps_excuse _ path

/-! ## Open files -/

/-- A file that has been emptied is open. -/
lemma opens_of_truncate {tree : FileTree} (emptied : w.tree.truncate w.here path = .ok tree) :
    w.Opens { w with tree } path [] := by
  rcases FileTree.truncate_eq_ok emptied with ⟨rfl, keeps⟩ | ⟨place, found, empty, others⟩
  · exact .sink (refl_of Spares w) keeps
  · exact .file ⟨rfl, found, empty, others, refl_of Later w⟩

/-- What is written to a file that is open stands in it, as far as it is written. Only trouble keeps it
from being written. -/
lemma append_cases (opens : w.Opens w1 path bytes) (text : String) :
    ∃ outcome w' more, ((hostOn r).append path text).run w1 = (outcome, w') ∧
      w.Opens w' path more ∧ ∀ trouble, outcome = .error trouble → w1.Met w' := by
  have appended (limit : Option Nat) : ∃ more, w.Opens
      (({ w1 with mishaps := w1.mishaps.drop 1 } : World).append path text limit) path more := by
    let added := upTo limit text.toUTF8.toList
    cases opens with
    | sink spares keeps =>
      have same : ({ w1 with mishaps := w1.mishaps.drop 1 } : World).append path text limit =
          { w1 with mishaps := w1.mishaps.drop 1 } := by
        unfold append
        exact congrArg (fun tree => { w1 with tree, mishaps := w1.mishaps.drop 1 }) (keeps added)
      rw [same]
      exact ⟨bytes, .sink
        ⟨⟨spares.here, spares.files⟩, trans_of Later spares.later ⟨1, rfl⟩⟩ keeps⟩
    | file touches =>
      obtain ⟨leads, file, others⟩ := FileTree.append_of_find touches.leads touches.file added
      exact ⟨_, .file ⟨touches.here, leads, file,
        fun q other => (others q other).trans (touches.others q other),
        trans_of Later touches.later ⟨1, rfl⟩⟩⟩
  rcases await_cases w1 () fun after limit => after.append path text limit with
    run | ⟨mishap, next, run⟩
  · obtain ⟨more, opens⟩ := appended none
    exact ⟨_, _, more, run, opens, nofun⟩
  · obtain ⟨more, opens⟩ := appended (some mishap.done)
    exact ⟨_, _, more, run, opens, fun _ _ => met_of_head? next rfl⟩

/-! ## Outputs -/

/-- The file that an output leads to, if it leads to one. -/
def outputPath? (w : World) : Option String → Option Path
  | none | some "-" => none
  | some named => (w.expand (.ofText named)).toOption.map (·.resolve w.folder)

/-- What comes of opening an output in a world. -/
inductive OpensOutput (w : World) (destination : Option String) :
    Except Failure Output → World → Prop
  | stream : OpensOutput w destination (.ok .stream) w
  | refused {failure : Failure} {w' : World} :
    w.Spares w' → OpensOutput w destination (.error failure) w'
  | file {path : Path} {w' : World} : w.outputPath? destination = some path →
    w.Opens w' path [] → OpensOutput w destination (.ok (.file path)) w'

/-- A file is emptied unless the file system refuses it. -/
lemma truncate_run (path : Path) :
    (Session.attempt ((session r v).host.truncate path) path).run.run w =
      match w.tree.truncate w.here path with
      | .ok tree => (.ok (), { w with tree })
      | .error fault => (.error (.file fault path.text), w) := by
  change ((w.change (w.tree.truncate w.here path)).1.mapError _,
    (w.change (w.tree.truncate w.here path)).2) = _
  cases w.tree.truncate w.here path with
  | ok tree => rfl
  | error fault => rfl

/-- The folders on the way to an output are made, and then it is emptied. -/
lemma opensOutput_of_makeFolders {destination : Option String} {outcome : Except Failure Output}
    (leads : w.outputPath? destination = some path)
    (run : (do
      (session r v).makeFolders path.parent.parts.length path.parent
      Session.attempt ((session r v).host.truncate path) path
      return .file path : ExceptT Failure (StateM World) Output).run.run w = (outcome, w')) :
    w.OpensOutput destination outcome w' := by
  have spares := keeps_makeFolders (r := r) (v := v) path.parent.parts.length path.parent w
  rw [ExceptT.run_bind, bind_run] at run
  generalize StateT.run ((session r v).makeFolders _ _).run w = made at spares run
  obtain ⟨made, w1⟩ := made
  cases made with
  | error failure =>
    cases run
    exact .refused spares
  | ok _ =>
    dsimp only at run spares
    rw [ExceptT.run_bind, bind_run, truncate_run] at run
    cases emptied : w1.tree.truncate w1.here path with
    | error fault =>
      rw [emptied] at run
      cases run
      exact .refused spares
    | ok tree =>
      rw [emptied] at run
      cases run
      exact .file leads (spares.opens (opens_of_truncate emptied))

/-- An output is opened, or no file is touched. -/
lemma opensOutput_of_run {destination : Option String} {outcome : Except Failure Output}
    (run : ((session r v).openOutput destination).run.run w = (outcome, w')) :
    w.OpensOutput destination outcome w' := by
  unfold Session.openOutput at run
  split at run
  · cases run
    exact .stream
  · cases run
    exact .stream
  · rename_i named ne
    rw [ExceptT.run_bind, bind_run, expandHome_run] at run
    cases expanded : w.expand (.ofText named) with
    | error failure =>
      rw [expanded] at run
      cases run
      exact .refused (refl_of Spares w)
    | ok path =>
      rw [expanded] at run
      dsimp only at run
      rw [ExceptT.run_bind, bind_run, here_run] at run
      cases found : w.findFolder with
      | error fault =>
        rw [found] at run
        cases run
        exact .refused (refl_of Spares w)
      | ok folder =>
        rw [found] at run
        dsimp only [Except.mapError] at run
        obtain rfl : folder = w.folder := by
          unfold findFolder at found
          split at found
          · cases found
            rfl
          · cases found
        have leads : w.outputPath? (some named) = some (path.resolve w.folder) := by
          unfold outputPath?
          split
          · contradiction
          · rename_i dash
            exact absurd (Option.some.inj dash) (by simpa using ne)
          · rename_i same
            cases same
            rw [expanded]
            rfl
        split at run
        · cases run
          exact .refused (refl_of Spares w)
        · exact opensOutput_of_makeFolders leads run

/-- An output is opened in the course of time. -/
lemma OpensOutput.later {destination : Option String} {outcome : Except Failure Output}
    (opens : w.OpensOutput destination outcome w') : w.Later w' := by
  cases opens with
  | stream => exact refl_of Later w
  | refused spares => exact spares.later
  | file _ opens => exact opens.later

/-- What is left of the files when something has been written to an output: they are as they were, but
for the output if it is a file. -/
inductive Fills (w : World) (destination : Option String) (w' : World) : Prop
  | spared : w.Spares w' → Fills w destination w'
  | file {path : Path} {bytes : List UInt8} : w.outputPath? destination = some path →
    w.Opens w' path bytes → Fills w destination w'

/-- What is written to an output touches no other file, and only trouble keeps it from being written. -/
lemma fills_of_put {destination : Option String} {output : Output} {text : String}
    {outcome : Except Failure Unit} (opened : w.OpensOutput destination (.ok output) w1)
    (run : ((session r v).put output text).run.run w1 = (outcome, w')) :
    w.Fills destination w' ∧ ∀ failure, outcome = .error failure → w1.Met w' := by
  cases opened with
  | stream =>
    have tells : OnlyTells ((session r v).put .stream text) := onlyTells_risk_write r .out text
    refine ⟨.spared (tells.alike.of_run run).spares, ?_⟩
    rintro failure rfl
    exact (tells.trouble run).2
  | @file path _ leads opens =>
    obtain ⟨outcome', w2, more, appended, opens, met⟩ := append_cases (r := r) opens text
    have risk : ((session r v).put (.file path) text).run.run w1 =
        ((((hostOn r).append path text).run w1).1.mapError Failure.trouble,
          (((hostOn r).append path text).run w1).2) := rfl
    rw [risk, appended] at run
    obtain ⟨failed, rfl⟩ := Prod.mk.inj run
    refine ⟨.file leads opens, ?_⟩
    rintro failure rfl
    obtain ⟨trouble, rfl, -⟩ := mapError_eq_error_iff.1 failed
    exact met trouble rfl

end World

end SchemaLint

import SchemaLint.Arguments.Reader
import SchemaLint.Arguments.WholeNumber
import SchemaLint.Command.Help
import SchemaLint.Command.Settings

/-!
# The interface of the program

The flags and operands by which the program and its commands are told their settings.
-/

namespace SchemaLint

open Arguments

namespace CheckSettings

/-- The effect of the number of workers. -/
def jobsEffect : Effect CheckSettings :=
  .value fun word s =>
    match wholeNumber? word with
    | some n => .ok { s with jobs := some n }
    | none => .error s!"invalid int value: {Text.quoted word}"

/-- The flags of a check. -/
def flags : List (Flag CheckSettings) :=
  [⟨["-h", "--help"], .stop (.answer Help.checkHelp)⟩,
    ⟨["-o", "--output"], .ofText fun word s => { s with output := some word }⟩,
    ⟨["-f", "--format"],
      .ofWords (Format.all.map fun f => (f.name, f)) fun format s => { s with format }⟩,
    ⟨["--config"], .ofText fun word s => { s with configuration := some word }⟩,
    ⟨["--color"],
      .ofWords (ColorMode.all.map fun c => (c.name, c)) fun color s => { s with color }⟩,
    ⟨["--no-color"], .set fun s => { s with color := .never }⟩,
    ⟨["-q", "--quiet"], .set fun s => { s with quiet := true }⟩,
    ⟨["--disable"], .ofText fun word s => { s with disabled := s.disabled ++ [word] }⟩,
    ⟨["--severity"], .ofText fun word s => { s with severities := s.severities ++ [word] }⟩,
    ⟨["--verb"], .ofText fun word s => { s with verbs := s.verbs ++ [word] }⟩,
    ⟨["--allow"], .ofText fun word s => { s with allowed := s.allowed ++ [word] }⟩,
    ⟨["--boolean-prefix"],
      .ofWords (PrefixPolicy.all.map fun p => (p.text, p)) fun p s =>
        { s with policy := some p }⟩,
    ⟨["-j", "--jobs"], jobsEffect⟩]

/-- The interface of a check. -/
def interface : Interface CheckSettings :=
  ⟨"gqlstyle check", Help.checkUsage, flags, .one "SCHEMA" fun word s => { s with schema := word }⟩

end CheckSettings

/-- The interface of the list of rules. -/
def RulesSettings.interface : Interface RulesSettings :=
  ⟨"gqlstyle rules", Help.rulesUsage,
    [⟨["-h", "--help"], .stop (.answer Help.rulesHelp)⟩,
      ⟨["-f", "--format"],
        .ofWords [("text", false), ("json", true)] fun json s => { s with json }⟩,
      ⟨["-o", "--output"], .ofText fun word s => { s with output := some word }⟩],
    .none⟩

/-- The interface of the writing of a configuration. -/
def InitSettings.interface : Interface InitSettings :=
  ⟨"gqlstyle init", Help.initUsage,
    [⟨["-h", "--help"], .stop (.answer Help.initHelp)⟩,
      ⟨["-o", "--output"], .ofText fun word s => { s with output := some word }⟩,
      ⟨["--force"], .set fun s => { s with force := true }⟩],
    .none⟩

namespace Settings

/-- Reads the command of a name with its arguments. -/
def takeCommand (name : String) (arguments : List String) (s : Settings) :
    Except Stop (Settings × List String) := do
  match name with
  | "check" | "lint" =>
    let (c, unknown) ← CheckSettings.interface.readKnown .default arguments
    return ({ s with command := some (.check c) }, unknown)
  | "rules" =>
    let (c, unknown) ← RulesSettings.interface.readKnown ⟨false, none⟩ arguments
    return ({ s with command := some (.rules c) }, unknown)
  | "init" =>
    let (c, unknown) ← InitSettings.interface.readKnown ⟨none, false⟩ arguments
    return ({ s with command := some (.init c) }, unknown)
  | _ =>
    let problem := notAmong name ["check", "lint", "rules", "init"]
    throw (.misuse Program.name Help.programUsage s!"argument <command>: {problem}")

/-- The interface of the program. -/
def interface : Interface Settings :=
  ⟨Program.name, Help.programUsage,
    [⟨["-h", "--help"], .stop (.answer Help.programHelp)⟩,
      ⟨["--version"], .stop (.answer s!"{Program.name} {Program.version}\n")⟩,
      ⟨["-v", "--verbose"], .set fun s => { s with verbosity := s.verbosity + 1 }⟩],
    .command takeCommand⟩

/-- The settings that arguments describe. -/
def ofArguments (arguments : List String) : Except Stop Settings :=
  interface.read ⟨0, none⟩ arguments

end Settings
end SchemaLint

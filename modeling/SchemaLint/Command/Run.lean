import SchemaLint.Catalog.Listing
import SchemaLint.Command.Check
import SchemaLint.Command.Interface
import SchemaLint.Options.Sample

/-!
# Runs of the program

A run of the program reads its arguments and does what the command among them asks for. It ends with
an exit code.

A failure that a command has no words for is caught at its end. An interruption has an exit code of its
own, and that nobody listens any more at the end of a pipe is no failure.
-/

namespace SchemaLint

namespace Session
variable {m : Type → Type} [Monad m] (s : Session m)

/-- Lists the rules of the standard catalog. -/
def rules (r : RulesSettings) : ExceptT Failure m Nat := do
  let output ← s.openOutput r.output
  s.put output (if r.json then Catalog.standard.listingJson else Catalog.standard.listing)
  return 0

/-- Ends the writing of a configuration that the system refuses. -/
def refuse (reason : String) : ExceptT Failure m Nat := do
  s.tell (.ofProgram .error s!"Cannot write file: {reason}")
  return 2

/-- Writes a configuration to start from into a file, which is replaced only by force if it is
there. -/
def writeSample (path : Path) (force : Bool) : ExceptT Failure m Nat := do
  if (← s.kind? path).isSome && !force then
    s.tell (.ofProgram .error
      s!"File already exists: {path.text} (use --force to overwrite)")
    return 1
  else if path.hasNull then throw .nullInPath
  else
    match ← s.host.truncate path with
    | .error fault => s.refuse (fault.message path.text)
    | .ok () =>
      match ← s.host.append path Options.sample with
      | .error (.fault fault) => s.refuse fault.plainMessage
      | .error trouble => throw (.trouble trouble)
      | .ok () =>
        s.say s!"Created: {path.text}\n"
        return 0

/-- Writes a configuration to start from. -/
def init (i : InitSettings) : ExceptT Failure m Nat :=
  s.writeSample (.ofText ((i.output.filter (· ≠ "")).getD ".gqlstyle.yml")) i.force

/-- Does what a command asks for. -/
def perform : Command → ExceptT Failure m Nat
  | .check c => s.check c
  | .rules r => s.rules r
  | .init i => s.init i

/-- The end of a command that a failure has stopped. -/
def recover (failure : Failure) : ExceptT Failure m Nat := do
  match failure with
  | .trouble .interruption =>
    s.tell (.ofProgram .info "Interrupted by user.")
    return 130
  | failure =>
    if failure.isBrokenPipe then return 0
    s.tell (.ofProgram .error s!"Unhandled exception: {failure.message}")
    return 2

/-- Performs a command to its end. -/
def complete (command : Command) : ExceptT Failure m Nat := do
  match ← outcome (s.perform command) with
  | .ok code => return code
  | .error failure => s.recover failure

end Session

namespace Program
variable {m : Type → Type} [Monad m]

/-- What the program does with some arguments. Without a command it tells how it is used. -/
def action (host : Host m) (arguments : List String) : ExceptT Failure m Nat := do
  match Settings.ofArguments arguments with
  | .error stop =>
    let s : Session m := ⟨host, 0⟩
    s.print .out stop.out
    s.print .err stop.err
    return stop.exit
  | .ok settings =>
    let s : Session m := ⟨host, settings.verbosity⟩
    match settings.command with
    | some command => s.complete command
    | none =>
      s.print .err Help.programHelp
      return 2

/-- The exit code that the system gives to a program of which a failure gets out. -/
def abort : Failure → Nat
  | .trouble .interruption => 130
  | _ => 1

/-- Runs the program with some arguments. -/
def run (host : Host m) (arguments : List String) : m Nat := do
  match ← (action host arguments).run with
  | .ok code => return code
  | .error failure => return abort failure

end Program
end SchemaLint

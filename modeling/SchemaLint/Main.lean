import SchemaLint.Command.Run
import Std.Time.Zoned

/-!
# The program on a computer

The computer as a host of the program.
-/

namespace SchemaLint.Computer

/-- The fault that an error stands for. -/
def fault : IO.Error → FileFault
  | .noFileOrDirectory .. => .notFound
  | .alreadyExists .. => .alreadyExists
  | .inappropriateType _ 20 _ => .notFolder
  | .inappropriateType _ 21 _ => .isFolder
  | .invalidArgument _ 36 _ => .nameTooLong
  | .inappropriateType _ code details | .permissionDenied _ code details
  | .invalidArgument _ code details | .resourceExhausted _ code details =>
    .other code.toNat details
  | .resourceVanished code details => .other code.toNat details
  | error => .other 5 (toString error)

/-- Does something with files that may fail. -/
def attempt {α : Type} (action : IO α) : IO (Except FileFault α) := do
  match ← action.toBaseIO with
  | .ok x => return .ok x
  | .error error => return .error (fault error)

/-- Does something over which trouble may come. -/
def risk {α : Type} (action : IO α) : IO (Except Trouble α) := do
  return (← attempt action).mapError .fault

/-- What a path leads to. -/
def kindOf (p : Path) : IO PathKind := do
  match (← ((← IO.currentDir) / p.text).metadata).type with
  | .file => return .file
  | .dir => return .folder
  | _ => return .other

/-- The home folder of an account, from the list of all accounts. The user is known by the
environment. -/
def homeOf? (name : String) : IO (Option String) := do
  let owner ← if name = "" then IO.getEnv "USER" else pure (some name)
  let accounts ← (IO.FS.lines "/etc/passwd").toBaseIO
  return ((accounts.toOption.getD #[]).toList.map (·.splitOn ":")).findSome? fun
    | user :: _ :: _ :: _ :: _ :: home :: _ => if some user = owner then some home else none
    | _ => none

/-- A number of the clock, in two digits. -/
def twoDigits (n : Int) : String := if n < 10 then s!"0{n}" else toString n

/-- The time of the day. -/
def clock : IO String := do
  let t ← Std.Time.PlainTime.now
  let parts := [t.hour.val, t.minute.val, t.second.val]
  return ":".intercalate (parts.map twoDigits)

/-- A number of milliseconds as seconds. -/
def seconds (milliseconds : Nat) : String :=
  let rest := toString (milliseconds % 1000)
  s!"{milliseconds / 1000}." ++ "".pushn '0' (3 - rest.length) ++ rest

/-- The stream of the computer. -/
def stream : Stream → IO IO.FS.Stream
  | .out => IO.getStdout
  | .err => IO.getStderr

/-- The computer as a host. -/
def host : Host IO where
  resources := .standard
  here := attempt do return .ofText (← IO.currentDir).toString
  environment := fun name => IO.getEnv name
  read := fun p => attempt do return (← IO.FS.readBinFile p.text).toList
  home := homeOf?
  kind := fun p => attempt (kindOf p)
  makeFolder := fun p => attempt (IO.FS.createDir p.text)
  truncate := fun p => attempt (IO.FS.writeFile p.text "")
  append := fun p text => risk do
    IO.FS.withFile p.text .append fun file => file.putStr text
  input := risk do return (← (← IO.getStdin).readBinToEnd).toList
  isTerminal := fun s => do (← stream s).isTty
  write := fun s text => risk do
    let target ← stream s
    target.putStr text
    target.flush
  clock
  timed := fun f => do
    let start ← IO.monoMsNow
    let value := f ()
    let stop ← IO.monoMsNow
    return .ok (value, seconds (stop - start))

end SchemaLint.Computer

/-- Runs the program. -/
def main (arguments : List String) : IO UInt32 := do
  return (← SchemaLint.Program.run SchemaLint.Computer.host arguments).toUInt32

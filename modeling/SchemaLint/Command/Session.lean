import SchemaLint.Command.Color
import SchemaLint.Command.Host
import SchemaLint.Lint.Event

/-!
# Sessions

A session is a host together with how much its user wants to be told.

What a command writes on purpose stops it if it cannot be written. Events are different: that one
cannot be told is told instead, and passed over if this is not possible either. Only an interruption
stops the command in any case.
-/

namespace SchemaLint

/-- A host, and how much of what goes on its user is told: errors only, also what is of interest, or
everything. -/
structure Session (m : Type → Type) where
  host : Host m
  verbosity : Nat

namespace EventLevel

/-- Events of a level are told at a verbosity. -/
def isTold : EventLevel → Nat → Bool
  | error, _ => true
  | info, v => 1 ≤ v
  | debug, v => 2 ≤ v

end EventLevel

namespace Session
variable {m : Type → Type} [Monad m] (s : Session m)

/-- Does something over which trouble may come, which stops the command. -/
def risk {α : Type} (action : m (Except Trouble α)) : ExceptT Failure m α :=
  ExceptT.adapt Failure.trouble (.mk action)

/-- What comes of an action that may fail. -/
def outcome {α : Type} (action : ExceptT Failure m α) : ExceptT Failure m (Except Failure α) :=
  ExceptT.lift action.run

/-- Writes a text for the user. -/
def say (text : String) : ExceptT Failure m Unit := risk (s.host.write .err text)

/-- Writes a text to a stream, if there is any. That the system refuses it is passed over. -/
def print (stream : Stream) (text : String) : ExceptT Failure m Unit := do
  if text ≠ "" then
    match ← s.host.write stream text with
    | .ok () | .error (.fault _) => return ()
    | .error trouble => throw (.trouble trouble)

/-- Tells that an event could not be told. That the system refuses even that is passed over. -/
def complain (reason : String) : ExceptT Failure m Unit :=
  s.print .err ("--- Logging error ---\nTraceback (most recent call last):\n" ++ reason ++ "\n")

/-- Tells an event, if its level is told. -/
def tell (e : Event) : ExceptT Failure m Unit := do
  if e.level.isTold s.verbosity then
    let time ← s.host.clock
    match ← s.host.write .err s!"{time} [{e.level.label}] {e.teller}: {e.text}\n" with
    | .ok () => return ()
    | .error .interruption => throw (.trouble .interruption)
    | .error trouble => s.complain trouble.message

/-- Tells that an event cannot be told, as a value in it cannot be written. -/
def tellUnwritten (level : EventLevel) (fault : WriteFault) : ExceptT Failure m Unit := do
  if level.isTold s.verbosity then s.complain s!"ValueError: {fault.message}"

/-- Tells events, one after the other. -/
def tellAll (events : List Event) : ExceptT Failure m Unit := events.forM s.tell

/-- Text on a stream is coloured in a mode. -/
def isColored (mode : ColorMode) (stream : Stream) : m Bool := do
  let objection := (← s.host.environment "NO_COLOR").isSome
  return mode.decide objection (← s.host.isTerminal stream)

/-- The text that bytes stand for, with unified line ends. -/
def decodeText (bytes : List UInt8) : Except Failure String :=
  match Text.Utf8.decode bytes with
  | .ok text => .ok (Text.unifyLineEnds text)
  | .error fault => .error (.undecodable fault)

/-- The text of a file. -/
def readText (path : Path) : ExceptT Failure m String := do
  if path.hasNull then throw .nullInPath
  match ← s.host.read path with
  | .ok bytes => decodeText bytes
  | .error fault => throw (.file fault path.text)

/-- What a path leads to, if it leads to anything. -/
def kind? (path : Path) : ExceptT Failure m (Option PathKind) := do
  if path.hasNull then return none
  match ← s.host.kind path with
  | .ok kind => return some kind
  | .error fault => if fault.isAbsence then return none else throw (.file fault path.text)

/-- The text that the command is given. -/
def inputText : ExceptT Failure m String := do decodeText (← risk s.host.input)

/-- The current folder. -/
def here : ExceptT Failure m Path :=
  ExceptT.adapt (fun fault => .trouble (.fault fault)) (.mk s.host.here)

/-- The home folder of an account. The environment may name that of the user. -/
def homeOf? (owner : String) : m (Option String) := do
  match ← s.host.environment "HOME" with
  | some home => if owner = "" then return some home else s.host.home owner
  | none => s.host.home owner

/-- The path with a home folder in place of a tilde. -/
def expandHome (p : Path) : ExceptT Failure m Path := do
  match p.homeOwner? with
  | none => return p
  | some owner =>
    match (← s.homeOf? owner).bind p.inHome with
    | some path => return path
    | none => throw .homeless

end Session
end SchemaLint

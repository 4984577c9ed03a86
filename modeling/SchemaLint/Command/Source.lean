import SchemaLint.Command.Session

/-!
# Schema files

A schema is read from a file, or by a command from its input. A file that cannot be read is a problem
of the schema; for a command this holds also of a file that is no text.
-/

namespace SchemaLint.Session

variable {m : Type → Type} [Monad m] (s : Session m)

/-- What it means that a schema file cannot be read. -/
def unreadableSchema (path : String) : Failure → Failure
  | .file fault _ => .problem (.of (.unreadable fault.reason) (.ofSource path))
  | failure => failure

/-- What it means that a schema file is no text. -/
def undecodableSchema (path : String) : Failure → Failure
  | .undecodable fault => .problem (.of (.unreadable fault.message) (.ofSource path))
  | failure => failure

/-- The text of a schema file. -/
def readSchema (path : String) : ExceptT Failure m String :=
  (s.readText (.ofText path)).adapt (unreadableSchema path)

/-- Lints a schema file. -/
def lintFile (options : Options) (path : String) : ExceptT Failure m Report := do
  let text ← s.readSchema path
  s.host.resources.lint (.standard options) text path

/-- The text of the schema that a command is given, and the name of its source. A dash stands for the
input. -/
def takeSchema (named : String) : ExceptT Failure m (String × String) := do
  if named = "-" then return (← s.inputText, "<stdin>")
  else return (← (s.readSchema named).adapt (undecodableSchema named), named)

end SchemaLint.Session

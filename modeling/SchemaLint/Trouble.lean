import SchemaLint.Files.Fault

/-!
# Trouble

What can come over the linter from outside while it works: the system refuses to read or write, the
user interrupts, or a library or the system breaks down in a way that nobody has told the linter of.
-/

namespace SchemaLint

/-- A breakdown: what it is called, and what it says. -/
structure Breakdown where
  kind : String
  text : String
  deriving DecidableEq, Repr

/-- Trouble from outside the linter. -/
inductive Trouble where
  | fault (f : FileFault)
  | interruption
  | breakdown (b : Breakdown)
  deriving DecidableEq, Repr

/-- The wording of trouble. -/
def Trouble.message : Trouble → String
  | fault f => f.plainMessage
  | interruption => ""
  | breakdown b => b.text

end SchemaLint

import SchemaLint.Problem
import SchemaLint.Sdl.Grammar

/-!
# Reading schema documents

A schema document is a text of the schema language without operations and fragments.
-/

namespace SchemaLint.Sdl.Document

/-- The document that a text has been read as, or the problem that it is not one of the language. -/
def ofRead (source : String) : Except Fault Document → Except Problem Document
  | .ok d => .ok d
  | .error f => .error (.of (.malformed f.cause) (.ofPosition source f.position))

/-- The document of a text, or the problem that it is not one of the language. -/
def parse (text source : String) : Except Problem Document := ofRead source (read text source)

/-- The problem that a definition is an operation or a fragment. -/
def executable (source : String) (d : Definition) : Problem :=
  (Problem.of .executable (.ofPosition source d.position)).withHint
    "Lint the schema file, not a query or fragment file"

/-- The document if it is that of a schema, or the problem that it is none. -/
def asSchema (source : String) (d : Document) : Except Problem Document :=
  match d.definitions.find? (·.isExecutable) with
  | some definition => .error (executable source definition)
  | none => .ok d

/-- The schema document of a text, or the problem that it is none. -/
def ofText (text source : String) : Except Problem Document := do
  asSchema source (← parse text source)

end SchemaLint.Sdl.Document

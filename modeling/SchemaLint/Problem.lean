import SchemaLint.Json.Basic
import SchemaLint.Options.Fault
import SchemaLint.Schema.Kind
import SchemaLint.Sdl.Fault

/-!
# Problems

A problem stops the linter before it has a report: the schema cannot be read or makes no sense, or
the configuration is invalid. Violations of style are no problems but diagnostics.

A problem has a cause, a code, a place and, for the user, notes and a hint.
-/

namespace SchemaLint

/-- A place in a source. Zero stands for an unknown line or column, the empty text for an unknown
source. -/
structure Span where
  source : String
  line : Int
  column : Int
  deriving DecidableEq, Repr

namespace Span

/-- The place that nothing is known of. -/
def unknown : Span := ⟨"", 0, 0⟩

/-- A source as a whole. -/
def ofSource (source : String) : Span := ⟨source, 0, 0⟩

/-- A position in a source. -/
def ofPosition (source : String) (p : Sdl.Position) : Span := ⟨source, p.line, p.column⟩

/-- The text of a place: source, line and column as far as they are known. -/
def text (s : Span) : String :=
  if s.source = "" ∧ s.line = 0 then "<unknown location>"
  else
    let source := if s.source = "" then "<schema>" else s.source
    if s.line ≤ 0 then source
    else if s.column ≤ 0 then s!"{source}:{s.line}"
    else s!"{source}:{s.line}:{s.column}"

end Span

/-- The families of problems: a schema that cannot be read, one that is no text of the schema
language, one whose definitions contradict each other, and an invalid configuration. -/
inductive Family where
  | general | structure_ | syntax_ | options
  deriving DecidableEq, Repr

/-- The code of a problem of a family that has none of its own. -/
def Family.code : Family → String
  | general => "GQL-3000"
  | structure_ => "GQL-2000"
  | syntax_ => "GQL-1000"
  | options => "GQL-3000"

/-- What kind of member a name is repeated as. -/
inductive MemberKind where
  | field | enumValue | argument
  deriving DecidableEq, Repr

/-- The words for a kind of member. -/
def MemberKind.text : MemberKind → String
  | field => "field"
  | enumValue => "enum value"
  | argument => "argument"

/-- The cause of a problem. `stated` is a problem of a family in words of its own. -/
inductive Cause where
  | stated (family : Family) (message : String)
  | unreadable (reason : String)
  | malformed (fault : Sdl.FaultCause)
  | executable
  | redefinedType (name : String)
  | conflictingKind (name : String) (first second : TypeKind)
  | redefinedMember (kind owner name : String)
  | undefinedType (name referencedFrom : String)
  | options (fault : OptionsFault)

namespace Cause

/-- The wording of a cause. -/
def message : Cause → String
  | stated _ message => message
  | unreadable reason => s!"Cannot read schema: {reason}"
  | malformed fault => "Syntax Error: " ++ fault.message
  | executable => "Executable definitions are not allowed in a schema document"
  | redefinedType name => s!"Redefinition of type '{name}'"
  | conflictingKind name first second =>
    s!"Cannot extend {first.text} type '{name}' as {second.text}"
  | redefinedMember kind owner name => s!"Redefinition of {kind} '{name}' in '{owner}'"
  | undefinedType name referencedFrom =>
    if referencedFrom = "" then s!"Undefined type '{name}'"
    else s!"Undefined type '{name}' (referenced from '{referencedFrom}')"
  | options fault => fault.message

/-- The code of a cause. -/
def code : Cause → String
  | stated family _ => family.code
  | unreadable _ => "GQL-0001"
  | malformed _ => "GQL-1000"
  | executable => "GQL-1001"
  | redefinedType _ | conflictingKind .. => "GQL-2000"
  | redefinedMember .. => "GQL-2001"
  | undefinedType .. => "GQL-2002"
  | options fault => fault.code

/-- The family of a cause. -/
def family : Cause → Family
  | stated family _ => family
  | unreadable _ => .general
  | malformed _ | executable => .syntax_
  | redefinedType _ | conflictingKind .. | redefinedMember .. | undefinedType .. => .structure_
  | options _ => .options

end Cause

/-- A problem. -/
structure Problem where
  cause : Cause
  code : String
  span : Span
  notes : List String
  hint : String

namespace Problem

/-- The problem of a cause at a place. -/
def of (cause : Cause) (span : Span := .unknown) : Problem := ⟨cause, cause.code, span, [], ""⟩

/-- The wording of a problem. -/
def message (p : Problem) : String := p.cause.message

/-- The problem with one more note. -/
def note (p : Problem) (text : String) : Problem := { p with notes := p.notes ++ [text] }

/-- The problem with another hint. -/
def withHint (p : Problem) (text : String) : Problem := { p with hint := text }

/-- The problem at the same place of another source. -/
def inSource (p : Problem) (source : String) : Problem := { p with span := { p.span with source } }

/-- The problem as it is told to a user. -/
def text (p : Problem) : String :=
  "\n".intercalate (s!"{p.span.text}: error: {p.message} [{p.code}]" ::
    p.notes.map ("note: " ++ ·) ++ if p.hint = "" then [] else ["hint: " ++ p.hint])

/-- The problem as a record. -/
def toJson (p : Problem) : Json :=
  .obj [
    ("code", .str p.code),
    ("message", .str p.message),
    ("location", .obj [
      ("source", .str p.span.source),
      ("line", .int p.span.line),
      ("column", .int p.span.column)]),
    ("notes", .strings p.notes),
    ("hint", .str p.hint)]

/-- A second definition of a type, with a note of the line of the first if it is known. -/
def redefinedType (name : String) (span : Span) (first : Option Span) : Problem :=
  let problem := of (.redefinedType name) span
  match first with
  | some s => if s.line = 0 then problem else problem.note s!"Previously defined at line {s.line}"
  | none => problem

/-- A reference to a type that is not defined. One similar name becomes a hint, several a note. -/
def undefinedType (name referencedFrom : String) (span : Span) (similar : List String) : Problem :=
  let problem := of (.undefinedType name referencedFrom) span
  match similar with
  | [] => problem
  | [one] => problem.withHint s!"Did you mean '{one}'?"
  | _ => problem.note ("Similar names: " ++ ", ".intercalate (similar.take 5))

/-- A fault of a configuration. -/
def ofOptions (fault : OptionsFault) (span : Span := .unknown) : Problem :=
  (of (.options fault) span).withHint fault.hint

end Problem
end SchemaLint

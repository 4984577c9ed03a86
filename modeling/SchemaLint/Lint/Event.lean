import SchemaLint.Lint.Basic

/-!
# Events

What a user can be told about the steps of linting while it goes on. The events of a schema that meets
a problem are those of the steps before it.
-/

namespace SchemaLint

/-- How important an event is. -/
inductive EventLevel where
  | debug | info | error
  deriving DecidableEq, Repr

/-- The word for a level, in five characters. -/
def EventLevel.label : EventLevel → String
  | debug => "DEBUG"
  | info => "INFO "
  | error => "ERROR"

/-- An event: how important it is, which part of the linter tells it, and what it says. -/
structure Event where
  level : EventLevel
  teller : String
  text : String
  deriving DecidableEq, Repr

namespace Event

/-- An event that the part of the linter called `part` tells. -/
def ofPart (level : EventLevel) (part text : String) : Event := ⟨level, s!"gqlstyle.{part}", text⟩

/-- An event that the program as a whole tells. -/
def ofProgram (level : EventLevel) (text : String) : Event := ⟨level, "gqlstyle", text⟩

/-- A document was read. -/
def parsed (d : Sdl.Document) (source : String) : Event :=
  .ofPart .debug "parser" <|
    if d.definitions.isEmpty then s!"parsed {source}: no definitions"
    else s!"parsed {source}: {d.definitions.length} definition(s)"

/-- Directives were found in the comments of a document. -/
def suppressed (d : Sdl.Document) : List Event :=
  match (Suppressions.ofDocument d).length with
  | 0 => []
  | n => [.ofPart .info "engine" s!"{n} inline suppression directive(s)"]

/-- A table was built. -/
def built (table : Table) : Event := .ofPart .debug "symbols" s!"built {table.text}"

/-- A run that took the time `elapsed` was complete. -/
def complete (r : Run) (elapsed : String) : Event := .ofPart .debug "engine" (r.summary elapsed)

end Event

/-- The events of linting a document that has been read, if it has been. Runs are told to take the time
`elapsed`. -/
def Linter.events (l : Linter) (document : Option Sdl.Document) (source elapsed : String) :
    List Event :=
  match document with
  | none => []
  | some d =>
    let table : List Event :=
      match l.rules, Table.build d (some source) with
      | .ok rules, .ok table =>
        let run := Run.ofRules rules (l.context table) (l.suppressions d)
        [.built table, .complete run elapsed]
      | _, _ => []
    .parsed d source :: Event.suppressed d ++ table

end SchemaLint

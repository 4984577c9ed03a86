import SchemaLint.Diagnostic
import SchemaLint.Sdl.Document
import SchemaLint.Suppression.Directive
import SchemaLint.Text.Glob

/-!
# Suppressions

A suppression silences some rules: everywhere, on one line, or on the entities whose path matches a
pattern. A diagnostic is silenced if one of the suppressions in force covers it; so neither their
order nor their number matters.

Suppressions come from directives in comments and from the configuration. A directive behind other
tokens of its line speaks of that line, and one on a line of its own of the next.
-/

namespace SchemaLint

/-- A suppression of rules. -/
inductive Suppression where
  | everywhere (rules : List String)
  | onLine (line : Nat) (rules : List String)
  | onPath (pattern : String) (rules : List String)
  deriving DecidableEq, Repr

/-- The suppressions in force. -/
abbrev Suppressions := List Suppression

namespace Suppression

/-- A rule is among those listed, by its id or by the wildcard. -/
def listsRule (rules : List String) (rule : String) : Bool :=
  rules.contains rule || rules.contains wildcard

/-- The suppression silences a diagnostic. -/
def covers (s : Suppression) (d : Diagnostic) : Bool :=
  match s with
  | everywhere rules => listsRule rules d.rule
  | onLine line rules => d.location.line == line && listsRule rules d.rule
  | onPath pattern rules =>
    listsRule rules d.rule && Text.Glob.isMatch pattern d.location.path

/-- The suppression of a directive on `line`, which stands behind a token of the line `previous`. -/
def ofDirective (directive : Directive) (line previous : Nat) : Suppression :=
  if directive.wholeFile then everywhere directive.rules
  else if previous = line then onLine line directive.rules
  else onLine (line + 1) directive.rules

/-- The suppressions in the comments among some tokens, of which the one before starts on the line
`previous`. -/
def ofTokens (previous : Nat) : List Sdl.Token → Suppressions
  | [] => []
  | t :: rest =>
    let more := ofTokens t.position.line rest
    match t.lexeme with
    | .comment text =>
      match Directive.ofComment? text with
      | some directive => ofDirective directive t.position.line previous :: more
      | none => more
    | _ => more

end Suppression

namespace Suppressions

/-- A diagnostic is silenced. -/
def silences (ss : Suppressions) (d : Diagnostic) : Bool := ss.any (·.covers d)

/-- The diagnostics that are not silenced, in order, and the number of the others. -/
def filter (ss : Suppressions) (ds : List Diagnostic) : List Diagnostic × Nat :=
  let kept := List.filter (!ss.silences ·) ds
  (kept, ds.length - kept.length)

/-- The suppressions in the comments of a document. Nothing is known of the comments of a document
without an origin. -/
def ofDocument (d : Sdl.Document) : Suppressions :=
  match d.origin with
  | some origin => Suppression.ofTokens 0 origin.tokens
  | none => []

end Suppressions
end SchemaLint

import SchemaLint.NameMap
import SchemaLint.Suppression.Basic

/-!
# The book of suppressions

Suppressions may be entered into a book, one after the other: the directives of documents, patterns
with a rule, and rules that are silenced everywhere. The book has a shelf for each way in which a
suppression finds its diagnostics, where the rules that belong together are put together.

The lines of directives are noted as they are. A directive on a line of its own is found from the line
below it.
-/

namespace SchemaLint.Suppression

/-- Rules by what is noted with them. -/
structure Shelf (κ : Type) where
  entries : List (κ × NameSet)

namespace Shelf
variable {κ : Type} [DecidableEq κ]

/-- The shelf on which nothing is noted. -/
def empty : Shelf κ := ⟨[]⟩

/-- The rules that are noted under a key. -/
def get (s : Shelf κ) (k : κ) : NameSet := ((s.entries.find? (·.1 == k)).map (·.2)).getD .empty

/-- The entries with more rules under a key. -/
def addTo (k : κ) (rules : List String) : List (κ × NameSet) → List (κ × NameSet)
  | [] => [(k, .ofNames rules)]
  | (k', noted) :: rest =>
    if k' = k then (k', noted.add rules) :: rest else (k', noted) :: addTo k rules rest

/-- The shelf with more rules under a key. -/
def add (s : Shelf κ) (k : κ) (rules : List String) : Shelf κ := ⟨addTo k rules s.entries⟩

end Shelf

/-- The suppressions that were entered.

* `trailing`: rules by the line of a directive behind other tokens of its line;
* `leading`: rules by the line of a directive on a line of its own;
* `patterns`: rules by the pattern of a path;
* `everywhere`: rules that are silenced everywhere. -/
structure Book where
  trailing : Shelf Int
  leading : Shelf Int
  patterns : Shelf String
  everywhere : NameSet

namespace Book

/-- The book in which nothing was entered. -/
def empty : Book := ⟨.empty, .empty, .empty, .empty⟩

/-- Nothing was entered. -/
def isEmpty (b : Book) : Bool :=
  b.trailing.entries.isEmpty && b.leading.entries.isEmpty && b.patterns.entries.isEmpty &&
    b.everywhere.isEmpty

/-- The book with a directive on `line`, which stands behind a token of the line `previous`. -/
def enter (b : Book) (directive : Directive) (line previous : Nat) : Book :=
  if directive.wholeFile then { b with everywhere := b.everywhere.add directive.rules }
  else if previous = line then { b with trailing := b.trailing.add line directive.rules }
  else { b with leading := b.leading.add line directive.rules }

/-- The book with the directives in the comments among some tokens, of which the one before starts on
the line `previous`, and their number. -/
def enterTokens (b : Book) (previous : Nat) : List Sdl.Token → Book × Nat
  | [] => (b, 0)
  | t :: rest =>
    let line := t.position.line
    match t.lexeme with
    | .comment text =>
      match Directive.ofComment? text with
      | some directive =>
        let (b, found) := (b.enter directive line previous).enterTokens line rest
        (b, found + 1)
      | none => b.enterTokens line rest
    | _ => b.enterTokens line rest

/-- The book with the directives of a document, and their number. Nothing is known of the comments of a
document without an origin. -/
def enterDocument (b : Book) (d : Sdl.Document) : Book × Nat :=
  match d.origin with
  | some origin => b.enterTokens 0 origin.tokens
  | none => (b, 0)

/-- The book with a rule that is silenced on the paths that match a pattern. -/
def enterPath (b : Book) (rule pattern : String) : Book :=
  { b with patterns := b.patterns.add pattern [rule] }

/-- The book with a rule that is silenced everywhere. -/
def enterRule (b : Book) (rule : String) : Book :=
  { b with everywhere := b.everywhere.add [rule] }

/-- A rule is among those noted, by its id or by the wildcard. -/
def lists (noted : NameSet) (rule : String) : Bool := listsRule noted.names rule

/-- A diagnostic is silenced. One whose line is unknown is on the line of no directive. -/
def silences (b : Book) (d : Diagnostic) : Bool :=
  let line := d.location.line
  lists b.everywhere d.rule ||
    (line != 0 &&
      (lists (b.trailing.get line) d.rule || lists (b.leading.get (line - 1)) d.rule)) ||
    b.patterns.entries.any fun e =>
      lists e.2 d.rule && Text.Glob.isMatch e.1 d.location.path

/-- The diagnostics that are not silenced, in order, and the number of the others. -/
def filter (b : Book) : List Diagnostic → List Diagnostic × Nat
  | [] => ([], 0)
  | d :: ds =>
    let (kept, dropped) := b.filter ds
    if b.silences d then (kept, dropped + 1) else (d :: kept, dropped)

/-- What may be asked of a book: to enter something, or to tell something. -/
inductive Request where
  | enterDocument (d : Sdl.Document)
  | enterPath (rule pattern : String)
  | enterRule (rule : String)
  | silences (d : Diagnostic)
  | filter (ds : List Diagnostic)
  | isInForce

/-- The request enters something. -/
def Request.enters : Request → Bool
  | enterDocument _ | enterPath .. | enterRule _ => true
  | silences _ | filter _ | isInForce => false

/-- What a book answers. -/
inductive Answer where
  | entered
  | found (directives : Nat)
  | truth (b : Bool)
  | filtered (kept : List Diagnostic) (dropped : Nat)
  deriving DecidableEq

/-- The book after a request, and its answer. -/
def serve (b : Book) : Request → Book × Answer
  | .enterDocument d =>
    let (b, found) := b.enterDocument d
    (b, .found found)
  | .enterPath rule pattern => (b.enterPath rule pattern, .entered)
  | .enterRule rule => (b.enterRule rule, .entered)
  | .silences d => (b, .truth (b.silences d))
  | .filter ds =>
    let (kept, dropped) := b.filter ds
    (b, .filtered kept dropped)
  | .isInForce => (b, .truth !b.isEmpty)

/-- The book after some requests, one after the other, and its answers. -/
def serveAll (b : Book) : List Request → Book × List Answer
  | [] => (b, [])
  | r :: rs =>
    let (b, answer) := b.serve r
    let (b, answers) := b.serveAll rs
    (b, answer :: answers)

end Book
end SchemaLint.Suppression

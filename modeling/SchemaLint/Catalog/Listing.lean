import SchemaLint.Catalog.Basic
import SchemaLint.Json.Printer

/-!
# Lists of rules

A catalog can be shown as a list of its rules, as lines of text or as JSON.
-/

namespace SchemaLint.Catalog

/-- The text with blanks in front of it up to a width. -/
def padStart (width : Nat) (s : String) : String := "".pushn ' ' (width - s.length) ++ s

/-- The text with blanks behind it up to a width. -/
def padEnd (width : Nat) (s : String) : String := s.pushn ' ' (width - s.length)

/-- The line of a rule at a position. Rules that go by likelihood have a star. -/
def line (position : Nat) (r : Rule) : String :=
  let mark := if r.heuristic then "*" else " "
  let start := padStart 3 (toString position) ++ "  " ++ padEnd 22 r.id ++ mark
  start ++ padEnd 8 r.severity.label ++ " " ++ r.description ++ "\n"

/-- The record of a rule at a position. -/
def record (position : Nat) (r : Rule) : Json :=
  .obj [
    ("position", .int position),
    ("id", .str r.id),
    ("severity", .str r.severity.label),
    ("targets", .strings ((r.targets.map (·.text)).mergeSort (· ≤ ·))),
    ("heuristic", .bool r.heuristic),
    ("description", .str r.description)]

/-- The rules as lines of text, the first at position 1. -/
def listing (c : Catalog) : String :=
  String.join ((c.rules.zipIdx 1).map fun r => line r.2 r.1) ++ "\n* heuristic rule\n"

/-- The rules as JSON, the first at position 1. -/
def listingJson (c : Catalog) : String :=
  (Json.arr ((c.rules.zipIdx 1).map fun r => record r.2 r.1)).indented ++ "\n"

end SchemaLint.Catalog

import SchemaLint.Yaml.Survey
import SchemaLint.Yaml.Unfold

/-!
# Reading of YAML texts

A text is read as one configuration value. The reader covers what configurations are written in:
collections in both styles, scalars in all styles, anchors and aliases, and the comments and marks of
documents. It knows no tags, no directives, no merged maps, and no plain scalars that stand for dates or
for numbers to the base 60. A reader that knows these, and that may break down on them, is one of other
resources.
-/

namespace SchemaLint.Yaml

/-- The character may stand in a text. -/
def isPermitted (c : Char) : Bool :=
  c == '\t' || c == '\n' || c == '\r' || (' ' ≤ c && c ≤ '~') || c == '\u0085' ||
    ('\u00a0' ≤ c && c ≤ '\ufffd') || 0x10000 ≤ c.toNat

/-- The first character that may not stand in a text, which starts `offset` characters in. -/
def firstForbidden (offset : Nat) : List Char → Option Fault
  | [] => none
  | c :: rest =>
    if isPermitted c then firstForbidden (offset + 1) rest else some ⟨.unprintable c offset, none⟩

/-- The value of a text. A text without a document is null. -/
def read (text : String) : Except Fault Value := do
  let cs := text.toList
  match firstForbidden 0 cs with
  | some f => throw f
  | none =>
    match ← Graph.ofText cs with
    | none => return .null
    | some g => do
      g.check
      return g.value

end SchemaLint.Yaml

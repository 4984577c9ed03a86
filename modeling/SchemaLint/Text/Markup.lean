import SchemaLint.Text.Basic
import SchemaLint.Unicode.Basic

/-!
# Markup

Text in markup is escaped: no character that could open or close a tag or a quoted value is left.
The simplest templates are markup in which a name between double braces stands for a text, which is
escaped when it is filled in. Nothing else between braces means anything in them; templates of which
more is asked, and which may fail, are left to other resources.
-/

namespace SchemaLint.Text.Markup

/-- The written form of a character. -/
def escapeChar (c : Char) : List Char :=
  if c = '&' then "&amp;".toList
  else if c = '<' then "&lt;".toList
  else if c = '>' then "&gt;".toList
  else if c = '\'' then "&#39;".toList
  else if c = '"' then "&#34;".toList
  else [c]

/-- The written form of a text. -/
def escape (s : String) : String := String.ofList (s.toList.flatMap escapeChar)

/-- A piece of a template. -/
inductive Piece where
  | text (c : Char)
  | slot (name : String)
  deriving DecidableEq, Repr

/-- The name in front of the double braces that close a slot, and what follows them. -/
def slotName : List Char → Option (List Char × List Char)
  | [] => none
  | '\x7d' :: '\x7d' :: rest => some ([], rest)
  | c :: rest => (slotName rest).map fun p => (c :: p.1, p.2)

/-- The pieces of a template, at most `fuel`. -/
def piecesFrom : Nat → List Char → List Piece
  | 0, _ | _, [] => []
  | fuel + 1, '\x7b' :: '\x7b' :: rest =>
    match slotName rest with
    | some (name, rest) => .slot (Unicode.trim (String.ofList name)) :: piecesFrom fuel rest
    | none => .text '\x7b' :: piecesFrom fuel ('\x7b' :: rest)
  | fuel + 1, c :: rest => .text c :: piecesFrom fuel rest

/-- The characters without a line end as the last. -/
def dropLineEnd (cs : List Char) : List Char :=
  if cs.getLast? = some '\n' then cs.dropLast else cs

/-- The pieces of a template. A line end at the end of a template does not count. -/
def pieces (template : String) : List Piece :=
  let cs := dropLineEnd (unifyLineEndsChars template.toList)
  piecesFrom cs.length cs

/-- A simple template with its slots filled in. -/
def fill (slot : String → String) (template : String) : String :=
  String.join ((pieces template).map fun
    | .text c => c.toString
    | .slot name => escape (slot name))

end SchemaLint.Text.Markup

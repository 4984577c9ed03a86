import SchemaLint.Yaml.Fault

/-!
# Cursors

A place in a text with what follows it. Line ends are line feeds, carriage returns, both together, and
the three line ends of Unicode. The byte order mark takes no column.
-/

namespace SchemaLint.Yaml

/-- The character ends a line. -/
def isBreak (c : Char) : Bool :=
  c == '\n' || c == '\r' || c == '\u0085' || c == '\u2028' || c == '\u2029'

/-- The character is a space, a tab or the end of a line. -/
def isSpace (c : Char) : Bool := c == ' ' || c == '\t' || isBreak c

/-- There is a space, a tab, a line end or nothing at all. -/
def isGap (c : Option Char) : Bool := c.all isSpace

/-- A place in a text with what follows it. -/
structure Cursor where
  rest : List Char
  offset : Nat
  line : Nat
  column : Nat

namespace Cursor

/-- The start of a text. -/
def start (text : List Char) : Cursor := ⟨text, 0, 0, 0⟩

/-- The place of a cursor. -/
def mark (c : Cursor) : Mark := ⟨c.line, c.column⟩

/-- The character `n` places ahead. -/
def peek (c : Cursor) (n : Nat) : Option Char := c.rest[n]?

/-- The next character. -/
def next (c : Cursor) : Option Char := c.rest.head?

/-- A fault at a cursor. -/
def fault (c : Cursor) (cause : FaultCause) : Fault := ⟨cause, some c.mark⟩

/-- The cursor behind the next character. -/
def advance (c : Cursor) : Cursor :=
  match c.rest with
  | [] => c
  | ch :: rest =>
    if isBreak ch && !(ch == '\r' && rest.head? == some '\n') then
      ⟨rest, c.offset + 1, c.line + 1, 0⟩
    else ⟨rest, c.offset + 1, c.line, if ch = '\uFEFF' then c.column else c.column + 1⟩

/-- The cursor behind the next `n` characters. -/
def advanceBy (c : Cursor) : Nat → Cursor
  | 0 => c
  | n + 1 => c.advance.advanceBy n

/-- The longest run of characters of a class, and the cursor behind it. -/
def takeWhile (c : Cursor) (p : Char → Bool) : List Char × Cursor :=
  let run := c.rest.takeWhile p
  (run, c.advanceBy run.length)

/-- The cursor behind the longest run of characters of a class. -/
def skipWhile (c : Cursor) (p : Char → Bool) : Cursor := (c.takeWhile p).2

/-- The line end at the cursor and the cursor behind it. Line ends other than the separators of lines
and paragraphs count as line feeds. -/
def lineEnd? (c : Cursor) : Option (Char × Cursor) :=
  match c.rest with
  | '\r' :: '\n' :: _ => some ('\n', c.advanceBy 2)
  | ch :: _ =>
    if isBreak ch then
      some (if ch = '\u2028' ∨ ch = '\u2029' then ch else '\n', c.advance)
    else none
  | [] => none

/-- Three equal characters and a gap, as they stand between documents. -/
def isRule (c : Cursor) (ch : Char) : Bool :=
  [ch, ch, ch].isPrefixOf c.rest && isGap (c.peek 3)

/-- What stands between documents. -/
def isSeparator (c : Cursor) : Bool := c.isRule '-' || c.isRule '.'

/-- The cursor behind a comment, which reaches to the end of its line. -/
def skipComment (c : Cursor) : Cursor :=
  if c.next = some '#' then c.skipWhile (!isBreak ·) else c

end Cursor
end SchemaLint.Yaml

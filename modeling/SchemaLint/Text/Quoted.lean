import SchemaLint.Text.Basic
import SchemaLint.Unicode.Printable

/-!
# Quoted text

Text from the user is shown in messages between quotes. Single quotes are used, except around a text
that holds single quotes and no double ones. The backslash, the enclosing quote and all characters
that are not printable are escaped, the latter by the shortest of `\xNN`, `\uNNNN` and `\UNNNNNNNN`.
-/

namespace SchemaLint.Text

/-- The quote that encloses a text. -/
def enclosingQuote (cs : List Char) : Char :=
  if cs.contains '\'' && !cs.contains '"' then '"' else '\''

/-- The written form of one character between quotes `q`. -/
def escapeQuoted (q c : Char) : List Char :=
  if c = q ∨ c = '\\' then ['\\', c]
  else if c = '\n' then ['\\', 'n']
  else if c = '\r' then ['\\', 'r']
  else if c = '\t' then ['\\', 't']
  else if Unicode.isPrintable c then [c]
  else if c.toNat < 0x100 then '\\' :: 'x' :: Hex.padded 2 c.toNat
  else if c.toNat < 0x10000 then '\\' :: 'u' :: Hex.padded 4 c.toNat
  else '\\' :: 'U' :: Hex.padded 8 c.toNat

/-- The text between quotes. -/
def quoted (s : String) : String :=
  let q := enclosingQuote s.toList
  String.ofList (q :: s.toList.flatMap (escapeQuoted q) ++ [q])

end SchemaLint.Text

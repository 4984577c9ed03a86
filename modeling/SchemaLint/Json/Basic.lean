import SchemaLint.Number.Double
import SchemaLint.Text.Basic

/-!
# JSON values and their text

A JSON value is written in ASCII only: all characters outside U+0020 to U+007E are escaped, those
beyond the basic plane as a pair of surrogates. The compact layout stands on one line; the indented
layout gives each member and element a line of its own and leaves empty objects and arrays closed.
-/

namespace SchemaLint

/-- A JSON value. The members of an object are in order. -/
inductive Json where
  | null
  | bool (b : Bool)
  | int (n : Int)
  | float (x : Number.Double)
  | str (s : String)
  | arr (elements : List Json)
  | obj (members : List (String × Json))

namespace Json

/-- A list of texts as an array. -/
def strings (ss : List String) : Json := .arr (ss.map .str)

/-- The text, or null. -/
def strOrNull : Option String → Json
  | some s => .str s
  | none => .null

/-- The four-digit escape of a 16-bit unit. -/
def escapeUnit (n : Nat) : List Char := '\\' :: 'u' :: Text.Hex.padded 4 n

/-- The written form of one character of a string. -/
def escapeChar (c : Char) : List Char :=
  if c = '"' then ['\\', '"']
  else if c = '\\' then ['\\', '\\']
  else if c = '\n' then ['\\', 'n']
  else if c = '\r' then ['\\', 'r']
  else if c = '\t' then ['\\', 't']
  else if c.toNat = 8 then ['\\', 'b']
  else if c.toNat = 12 then ['\\', 'f']
  else if 32 ≤ c.toNat ∧ c.toNat < 127 then [c]
  else if c.toNat < 0x10000 then escapeUnit c.toNat
  else
    escapeUnit (0xd800 + (c.toNat - 0x10000) / 0x400) ++
      escapeUnit (0xdc00 + (c.toNat - 0x10000) % 0x400)

/-- A string between its quotes. -/
def quote (s : String) : List Char :=
  '"' :: s.toList.flatMap escapeChar ++ ['"']

end Json
end SchemaLint

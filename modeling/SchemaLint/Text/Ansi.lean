/-!
# Coloured text

Terminals change colour and weight at escape sequences: the escape character, a bracket, a number and
the letter `m`.
-/

namespace SchemaLint.Text

/-- The colours in use. -/
inductive Color where
  | red | green | yellow | blue
  deriving DecidableEq, Repr

namespace Color

/-- The number of a colour. -/
def number : Color → Nat
  | red => 31
  | green => 32
  | yellow => 33
  | blue => 34

/-- The name of a colour. -/
def name : Color → String
  | red => "red"
  | green => "green"
  | yellow => "yellow"
  | blue => "blue"

end Color

namespace Ansi

/-- The escape sequence of a number. -/
def sequence (n : Nat) : String := s!"\x1b[{n}m"

/-- The text behind some escape sequences, with everything reset behind it. -/
def styled (numbers : List Nat) (text : String) : String :=
  String.join (numbers.map sequence) ++ text ++ sequence 0

/-- The text in a colour. -/
def colored (c : Color) (text : String) : String := styled [c.number] text

/-- The text in a colour and bold. -/
def bold (c : Color) (text : String) : String := styled [1, c.number] text

/-- The text in a darker shade. -/
def dark (text : String) : String := styled [2] text

end Ansi
end SchemaLint.Text

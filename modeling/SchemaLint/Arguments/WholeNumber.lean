import SchemaLint.Number.Fault
import SchemaLint.Unicode.Basic
import SchemaLint.Unicode.Digit

/-!
# Whole numbers as arguments

A whole number is written with digits of any script, with a sign in front if need be, and with single
underscores between digits. Blanks around it do not count.
-/

namespace SchemaLint.Arguments

/-- The character is blank in front of and behind a number. Next to nothing but ASCII the information
separators are not blank. -/
def isBlankBeside (ascii : Bool) (c : Char) : Bool :=
  Unicode.isBlank c && !(ascii && 28 ≤ c.toNat && c.toNat ≤ 31)

/-- The values of digits with single underscores between them. -/
def digitValues? : List Char → Option (List Nat)
  | [] => none
  | [c] => (Unicode.decimalValue? c).map ([·])
  | c :: '_' :: rest => do return (← Unicode.decimalValue? c) :: (← digitValues? rest)
  | c :: rest => do return (← Unicode.decimalValue? c) :: (← digitValues? rest)

/-- The number with some digits. -/
def natural? (cs : List Char) : Option Nat := do
  let digits ← digitValues? cs
  if digits.length ≤ Number.digitLimit then some (digits.foldl (fun n d => 10 * n + d) 0) else none

/-- The whole number that a text stands for. -/
def wholeNumber? (s : String) : Option Int :=
  let ascii := s.toList.all (·.toNat < 128)
  let isBlank := isBlankBeside ascii
  match ((s.toList.dropWhile isBlank).reverse.dropWhile isBlank).reverse with
  | '-' :: cs => (natural? cs).map fun n => -(n : Int)
  | '+' :: cs => (natural? cs).map fun n => (n : Int)
  | cs => (natural? cs).map fun n => (n : Int)

end SchemaLint.Arguments

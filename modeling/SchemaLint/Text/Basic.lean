/-!
# Characters of texts

Line ends, the search for a part of a text, and hexadecimal digits.
-/

namespace SchemaLint.Text

/-! ## Line ends

Text files may end their lines with a line feed, a carriage return or both. Reading turns every line
end into a line feed. -/

/-- The characters with every line end as one line feed. -/
def unifyLineEndsChars : List Char → List Char
  | '\r' :: '\n' :: rest => '\n' :: unifyLineEndsChars rest
  | '\r' :: rest => '\n' :: unifyLineEndsChars rest
  | c :: rest => c :: unifyLineEndsChars rest
  | [] => []

/-- The text with every line end as one line feed. -/
def unifyLineEnds (s : String) : String :=
  String.ofList (unifyLineEndsChars s.toList)

/-! ## Search -/

/-- The place at which `part` starts for the first time in a text, `offset` characters of which have
been passed. -/
def findFrom (part : List Char) (offset : Nat) : List Char → Option Nat
  | [] => if part.isEmpty then some offset else none
  | c :: cs =>
    if part.isPrefixOf (c :: cs) then some offset else findFrom part (offset + 1) cs

/-- The place at which `part` starts for the first time in a text. -/
def find? (part text : List Char) : Option Nat := findFrom part 0 text

/-! ## Hexadecimal digits

Code points written with a fixed number of hexadecimal digits, and read back. -/

namespace Hex

/-- At least `width` small hexadecimal digits of `n`, filled up with zeros. -/
def padded (width n : Nat) : List Char :=
  let digits := Nat.toDigits 16 n
  List.replicate (width - digits.length) '0' ++ digits

/-- The value of a hexadecimal digit. -/
def digit? (c : Char) : Option Nat :=
  if '0' ≤ c ∧ c ≤ '9' then some (c.toNat - 48)
  else if 'a' ≤ c ∧ c ≤ 'f' then some (c.toNat - 87)
  else if 'A' ≤ c ∧ c ≤ 'F' then some (c.toNat - 55)
  else none

/-- The value of a text of hexadecimal digits. -/
def value? (cs : List Char) : Option Nat :=
  cs.foldlM (fun n c => (digit? c).map (16 * n + ·)) 0

end Hex

end SchemaLint.Text

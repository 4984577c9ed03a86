/-!
# Classes of characters

A class of characters is given by a table of ranges, both ends included, in ascending order of code
points. One class is that of the blanks, which separate words and which trimming removes: the white
space of Unicode 14, the four information separators U+001C to U+001F included.
-/

namespace SchemaLint.Unicode

/-- Ranges of code points, both ends included, in ascending order. -/
abbrev RangeTable := List (Nat × Nat)

/-- A character lies in one of the ranges. The search stops at the first range that ends at or after
the character. -/
def RangeTable.contains : RangeTable → Char → Bool
  | [], _ => false
  | (first, last) :: rest, c => if c.toNat ≤ last then first ≤ c.toNat else contains rest c

/-- Blank characters outside ASCII. -/
def blankRanges : RangeTable :=
  [(0x85, 0x85), (0xa0, 0xa0), (0x1680, 0x1680), (0x2000, 0x200a), (0x2028, 0x2029),
   (0x202f, 0x202f), (0x205f, 0x205f), (0x3000, 0x3000)]

/-- White space of any script, and the information separators. -/
def isBlank (c : Char) : Bool :=
  if c.toNat < 128 then (9 ≤ c.toNat && c.toNat ≤ 13) || (28 ≤ c.toNat && c.toNat ≤ 32)
  else blankRanges.contains c

/-- The text without the blanks at its two ends. -/
def trim (s : String) : String :=
  String.ofList (((s.toList.dropWhile isBlank).reverse.dropWhile isBlank).reverse)

end SchemaLint.Unicode

/-!
# Faults of numbers

Numbers that are too small or too large for what they should stand for. A whole number is neither read
nor written in decimal digits beyond a limit.
-/

namespace SchemaLint

/-- Trouble with a number: digits that are missing in a base, too many digits to be read or to be
written, and the code of a character that there is not. -/
inductive NumberFault where
  | noDigits (base : Nat)
  | unreadable (digits : Nat)
  | unwritable
  | noCharacter (code : Nat)
  deriving DecidableEq, Repr

namespace Number

/-- The most decimal digits of a whole number that is read or written. -/
def digitLimit : Nat := 4300

/-- The number has no more decimal digits than may be written. -/
def isWritable (n : Int) : Bool := n.natAbs < Nat.pow 10 digitLimit

end Number

namespace NumberFault

/-- The code of a character is out of the range of codes that there could be at all. -/
def isOverflow : NumberFault → Bool
  | noCharacter code => 0x80000000 ≤ code
  | _ => false

/-- What it is called that a number has too many digits. -/
def overLimit (detail : String) : String :=
  s!"Exceeds the limit ({Number.digitLimit} digits) for integer string conversion{detail}; " ++
    "use sys.set_int_max_str_digits() to increase the limit"

/-- The wording of a fault. -/
def message : NumberFault → String
  | noDigits base => s!"invalid literal for int() with base {base}: ''"
  | unreadable digits => overLimit s!": value has {digits} digits"
  | unwritable => overLimit ""
  | noCharacter code =>
    if 0x80000000 ≤ code then "Python int too large to convert to C int"
    else "chr() arg not in range(0x110000)"

end NumberFault
end SchemaLint

import SchemaLint.Value.Basic
import SchemaLint.Yaml.Fault

/-!
# Values of plain scalars

A scalar without quotes may stand for nothing, for a truth value or for a number; any other is a text.
Whole numbers are written in base 10, in base 2 behind `0b`, in base 16 behind `0x` or in base 8 behind
`0`. Other numbers have a point, and their exponent has a sign. Underscores among the digits do not
count. Dates, times and numbers to the base 60 are taken for texts here.
-/

namespace SchemaLint.Yaml.Plain

/-- Texts for nothing. -/
def nulls : List String := ["", "~", "null", "Null", "NULL"]

/-- Texts for truth. -/
def truths : List String :=
  ["yes", "Yes", "YES", "true", "True", "TRUE", "on", "On", "ON"]

/-- Texts for falsehood. -/
def falsehoods : List String :=
  ["no", "No", "NO", "false", "False", "FALSE", "off", "Off", "OFF"]

/-- The sign in front of a number, and the number behind it. -/
def sign : List Char → Bool × List Char
  | '-' :: rest => (true, rest)
  | '+' :: rest => (false, rest)
  | cs => (false, cs)

/-- The value of digits in a base. -/
def digitsValue (base : Nat) (cs : List Char) : Nat :=
  cs.foldl (fun n c => n * base + (Text.Hex.digit? c).getD 0) 0

/-- The characters without underscores. -/
def dropUnderscores (cs : List Char) : List Char := cs.filter (· != '_')

/-- All characters are digits below `base` or underscores, and there is one. -/
def areDigits (base : Nat) (cs : List Char) : Bool :=
  !cs.isEmpty && cs.all fun c => c == '_' || (Text.Hex.digit? c).any (· < base)

/-- The base and the digits of a whole number without its sign. -/
def wholeDigits? : List Char → Option (Nat × List Char)
  | ['0'] => some (10, ['0'])
  | '0' :: 'b' :: cs => if areDigits 2 cs then some (2, cs) else none
  | '0' :: 'x' :: cs => if areDigits 16 cs then some (16, cs) else none
  | '0' :: cs => if areDigits 8 cs then some (8, '0' :: cs) else none
  | c :: cs => if c.isDigit && (cs.isEmpty || areDigits 10 cs) then some (10, c :: cs) else none
  | [] => none

/-- The whole number of a text. Only in base 10 the number of digits is limited. -/
def whole? (cs : List Char) : Option (Except FaultCause Int) :=
  let (negative, cs) := sign cs
  (wholeDigits? cs).map fun (base, digits) =>
    let digits := dropUnderscores digits
    if digits.isEmpty then .error (.number (.noDigits base))
    else if base = 10 ∧ Number.digitLimit < digits.length then
      .error (.number (.unreadable digits.length))
    else
      let n := digitsValue base digits
      .ok (if negative then -n else n)

/-- The exponent of a number, from its letter on. -/
def exponent? : List Char → Option Int
  | [] => some 0
  | c :: '+' :: ds =>
    if (c == 'e' || c == 'E') && !ds.isEmpty && ds.all Char.isDigit then some (digitsValue 10 ds)
    else none
  | c :: '-' :: ds =>
    if (c == 'e' || c == 'E') && !ds.isEmpty && ds.all Char.isDigit then
      some (-(digitsValue 10 ds : Int))
    else none
  | _ => none

/-- The character is a digit or an underscore. -/
def isDigitOrUnderscore (c : Char) : Bool := c.isDigit || c == '_'

/-- The number with a point whose whole part is `front` and whose rest, behind the point, is `cs`. -/
def fraction? (negative : Bool) (front cs : List Char) : Option Number.Double :=
  let places := dropUnderscores (cs.takeWhile isDigitOrUnderscore)
  (exponent? (cs.dropWhile isDigitOrUnderscore)).map fun e =>
    .ofDecimal negative (digitsValue 10 (dropUnderscores front ++ places)) (e - places.length)

/-- The number with a point of a text. Only behind digits may a point come last, and only in front of
them a sign. -/
def pointed? (cs : List Char) : Option Number.Double :=
  match cs with
  | '.' :: c :: rest =>
    if ["nan", "NaN", "NAN"].contains (String.ofList (c :: rest)) then some .notANumber
    else if c.isDigit then fraction? false [] (c :: rest)
    else if ["inf", "Inf", "INF"].contains (String.ofList (c :: rest)) then some (.infinite false)
    else none
  | _ =>
    let (negative, cs) := sign cs
    match cs.takeWhile isDigitOrUnderscore, cs.dropWhile isDigitOrUnderscore with
    | [], '.' :: rest =>
      if ["inf", "Inf", "INF"].contains (String.ofList rest) then some (.infinite negative)
      else none
    | c :: front, '.' :: rest => if c.isDigit then fraction? negative (c :: front) rest else none
    | _, _ => none

/-- The value of a plain scalar. Some texts are marks of their own and stand for no value. -/
def value (text : String) : Except FaultCause Value :=
  let cs := text.toList
  if nulls.contains text then .ok .null
  else if truths.contains text then .ok (.bool true)
  else if falsehoods.contains text then .ok (.bool false)
  else if text = "=" then .error (.untypedScalar "value")
  else if text = "<<" then .error (.untypedScalar "merge")
  else
    match whole? cs, pointed? cs with
    | some (.ok n), _ => .ok (.int n)
    | some (.error f), _ => .error f
    | none, some x => .ok (.float x)
    | none, none => .ok (.str text)

end SchemaLint.Yaml.Plain

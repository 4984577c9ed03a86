import SchemaLint.Json.Basic

/-!
# Reading of JSON

A text is read as one JSON value with blanks around it. A number with a point or an exponent is read
as the nearest double, any other number as a whole number of any size. Two escapes that form a
surrogate pair are one character.
-/

namespace SchemaLint.Json

/-- Blanks between the parts of a value. -/
def skipBlanks (cs : List Char) : List Char :=
  cs.dropWhile fun c => c == ' ' || c == '\n' || c == '\r' || c == '\t'

/-- The value of four hexadecimal digits, and what follows them. -/
def readUnit : List Char → Option (Nat × List Char)
  | a :: b :: c :: d :: rest => (Text.Hex.value? [a, b, c, d]).map (·, rest)
  | _ => none

/-- The character of an escape, read behind its backslash, and what follows it. -/
def readEscape : List Char → Option (Char × List Char)
  | 'u' :: rest => do
    let (high, rest) ← readUnit rest
    if 0xd800 ≤ high ∧ high < 0xdc00 then
      match rest with
      | '\\' :: 'u' :: rest => do
        let (low, rest) ← readUnit rest
        if 0xdc00 ≤ low ∧ low < 0xe000 then
          some (Char.ofNat (0x10000 + (high - 0xd800) * 0x400 + (low - 0xdc00)), rest)
        else none
      | _ => none
    else some (Char.ofNat high, rest)
  | c :: rest =>
    match c with
    | '"' | '\\' | '/' => some (c, rest)
    | 'n' => some ('\n', rest)
    | 'r' => some ('\r', rest)
    | 't' => some ('\t', rest)
    | 'b' => some (Char.ofNat 8, rest)
    | 'f' => some (Char.ofNat 12, rest)
    | _ => none
  | [] => none

/-- The rest of a string of fewer than `fuel` characters, and what follows its closing quote. -/
def readString : Nat → List Char → Option (List Char × List Char)
  | 0, _ => none
  | _, [] => none
  | fuel + 1, c :: rest =>
    if c = '"' then some ([], rest)
    else if c = '\\' then do
      let (d, rest) ← readEscape rest
      let (cs, rest) ← readString fuel rest
      some (d :: cs, rest)
    else do
      let (cs, rest) ← readString fuel rest
      some (c :: cs, rest)

/-- The value of a text of decimal digits. -/
def digitsValue (cs : List Char) : Nat :=
  cs.foldl (fun n c => 10 * n + (c.toNat - 48)) 0

/-- A number, and what follows it. -/
def readNumber (cs : List Char) : Option (Json × List Char) :=
  let (negative, cs) :=
    match cs with
    | '-' :: rest => (true, rest)
    | _ => (false, cs)
  let whole := cs.takeWhile Char.isDigit
  let rest := cs.drop whole.length
  if whole.isEmpty then none
  else
    let (fraction, afterFraction) :=
      match rest with
      | '.' :: more => (more.takeWhile Char.isDigit, more.dropWhile Char.isDigit)
      | _ => ([], rest)
    let (hasPower, negativePower, power, afterPower) :=
      match afterFraction with
      | c :: more =>
        if c = 'e' ∨ c = 'E' then
          let (sign, more) :=
            match more with
            | '-' :: more => (true, more)
            | '+' :: more => (false, more)
            | _ => (false, more)
          (true, sign, more.takeWhile Char.isDigit, more.dropWhile Char.isDigit)
        else (false, false, [], afterFraction)
      | [] => (false, false, [], afterFraction)
    if fraction.isEmpty && !hasPower then
      let n : Int := digitsValue whole
      some (.int (if negative then -n else n), rest)
    else
      let magnitude : Int := digitsValue power
      let exponent := (if negativePower then -magnitude else magnitude) - fraction.length
      some (.float (.ofDecimal negative (digitsValue (whole ++ fraction)) exponent), afterPower)

mutual

/-- A value of fewer than `fuel` parts and characters, and what follows it. -/
def readValue : Nat → List Char → Option (Json × List Char)
  | 0, _ => none
  | fuel + 1, cs =>
    match skipBlanks cs with
    | 'n' :: 'u' :: 'l' :: 'l' :: rest => some (.null, rest)
    | 't' :: 'r' :: 'u' :: 'e' :: rest => some (.bool true, rest)
    | 'f' :: 'a' :: 'l' :: 's' :: 'e' :: rest => some (.bool false, rest)
    | '"' :: rest => (readString (rest.length + 1) rest).map fun (s, rest) => (.str (.ofList s), rest)
    | '[' :: rest =>
      match skipBlanks rest with
      | ']' :: rest => some (.arr [], rest)
      | rest => do
        let (x, rest) ← readValue fuel rest
        let (xs, rest) ← readElements fuel rest
        some (.arr (x :: xs), rest)
    | '\x7b' :: rest =>
      match skipBlanks rest with
      | '\x7d' :: rest => some (.obj [], rest)
      | rest => do
        let (m, rest) ← readMember fuel rest
        let (ms, rest) ← readMembers fuel rest
        some (.obj (m :: ms), rest)
    | cs => readNumber cs

/-- Further elements up to the closing bracket. -/
def readElements : Nat → List Char → Option (List Json × List Char)
  | 0, _ => none
  | fuel + 1, cs =>
    match skipBlanks cs with
    | ']' :: rest => some ([], rest)
    | ',' :: rest => do
      let (x, rest) ← readValue fuel rest
      let (xs, rest) ← readElements fuel rest
      some (x :: xs, rest)
    | _ => none

/-- A key, a colon and a value. -/
def readMember : Nat → List Char → Option ((String × Json) × List Char)
  | 0, _ => none
  | fuel + 1, cs =>
    match skipBlanks cs with
    | '"' :: rest => do
      let (k, rest) ← readString (rest.length + 1) rest
      match skipBlanks rest with
      | ':' :: rest => do
        let (x, rest) ← readValue fuel rest
        some ((.ofList k, x), rest)
      | _ => none
    | _ => none

/-- Further members up to the closing brace. -/
def readMembers : Nat → List Char → Option (List (String × Json) × List Char)
  | 0, _ => none
  | fuel + 1, cs =>
    match skipBlanks cs with
    | '\x7d' :: rest => some ([], rest)
    | ',' :: rest => do
      let (m, rest) ← readMember fuel rest
      let (ms, rest) ← readMembers fuel rest
      some (m :: ms, rest)
    | _ => none

end

/-- The value that a text holds. -/
def read? (s : String) : Option Json :=
  match readValue (2 * s.length + 2) s.toList with
  | some (x, rest) => if (skipBlanks rest).isEmpty then some x else none
  | none => none

/-- The value of a member, the last one of its name. -/
def get? (x : Json) (key : String) : Option Json :=
  match x with
  | .obj members => (members.reverse.find? (·.1 == key)).map (·.2)
  | _ => none

end SchemaLint.Json

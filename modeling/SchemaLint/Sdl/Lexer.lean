import SchemaLint.Sdl.Fault

/-!
# Lexical analysis

A text is cut into tokens from the front. One step takes a blank, a comment or a lexeme, or finds
that no lexeme starts here; every step but the last takes at least one character.
-/

namespace SchemaLint.Sdl

/-- What a text starts with: nothing but a blank, a lexeme, or a fault that many characters on.
`more` counts the characters after the first. -/
inductive Step where
  | blank (more : Nat)
  | lexeme (l : Lexeme) (more : Nat)
  | fault (cause : FaultCause) (offset : Nat)

/-- Letters that start a name. -/
def isNameStart (c : Char) : Bool := c.isAlpha || c == '_'

/-- Characters of a name. -/
def isNameContinue (c : Char) : Bool := c.isAlphanum || c == '_'

/-- The digits at the front; at least one is wanted `offset` characters into the number. -/
def leadingDigits (offset : Nat) (cs : List Char) : Except (FaultCause × Nat) (List Char) :=
  match cs.takeWhile Char.isDigit with
  | [] => .error (.digitExpected cs.head?, offset)
  | ds => .ok ds

/-- Number of characters of a number's whole part. -/
def wholePart (cs : List Char) : Except (FaultCause × Nat) Nat := do
  let sign := if cs.head? = some '-' then 1 else 0
  let unsigned := cs.drop sign
  if unsigned.head? = some '0' then
    match unsigned[1]? with
    | some c => if c.isDigit then throw (.digitAfterZero (some c), sign + 1)
    | none => pure ()
    return sign + 1
  else
    return sign + (← leadingDigits sign unsigned).length

/-- Number of characters of a number's fraction, the point included, behind `offset` characters. -/
def fractionPart (offset : Nat) (cs : List Char) : Except (FaultCause × Nat) Nat :=
  match cs with
  | '.' :: rest => (leadingDigits (offset + 1) rest).map (·.length + 1)
  | _ => .ok 0

/-- Number of characters of a number's exponent behind `offset` characters. -/
def exponentPart (offset : Nat) (cs : List Char) : Except (FaultCause × Nat) Nat :=
  match cs with
  | c :: rest =>
    if c = 'e' ∨ c = 'E' then
      let sign := if rest.head? = some '+' ∨ rest.head? = some '-' then 1 else 0
      (leadingDigits (offset + 1 + sign) (rest.drop sign)).map (·.length + 1 + sign)
    else .ok 0
  | [] => .ok 0

/-- A number. Neither a point nor a letter may follow it. -/
def number (cs : List Char) : Except (FaultCause × Nat) (Lexeme × Nat) := do
  let whole ← wholePart cs
  let fraction ← fractionPart whole (cs.drop whole)
  let exponent ← exponentPart (whole + fraction) (cs.drop (whole + fraction))
  let size := whole + fraction + exponent
  match cs[size]? with
  | some c => if c = '.' ∨ isNameStart c then throw (.digitExpected (some c), size)
  | none => pure ()
  let text := String.ofList (cs.take size)
  return (if fraction + exponent = 0 then .int text else .float text, size)

/-- Code points that are characters. -/
def isScalar (n : Nat) : Bool := n < 0xd800 || (0xe000 ≤ n && n < 0x110000)

/-- The code point and the length of an escape `\u{…}`, of which `seen` characters with the value
`point` have been read; on failure, the number of characters up to the one that fails. -/
def bracedEscape (seen point : Nat) : Nat → List Char → Except Nat (Nat × Nat)
  | 0, _ => .error seen
  | _, [] => .error seen
  | room + 1, c :: rest =>
    if c = '\x7d' then
      if 4 ≤ seen && isScalar point then .ok (point, seen + 1) else .error (seen + 1)
    else
      match Text.Hex.digit? c with
      | some d => bracedEscape (seen + 1) (16 * point + d) room rest
      | none => .error (seen + 1)

/-- The code point and the length of an escape `\uXXXX`, or of two that form a surrogate pair. -/
def fixedEscape (cs : List Char) : Option (Nat × Nat) := do
  let unit (cs : List Char) : Option Nat :=
    if cs.length = 4 then Text.Hex.value? cs else none
  let high ← unit ((cs.drop 2).take 4)
  if isScalar high then return (high, 6)
  if 0xdc00 ≤ high ∨ (cs.drop 6).take 2 ≠ ['\\', 'u'] then none
  let low ← unit ((cs.drop 8).take 4)
  if 0xdc00 ≤ low ∧ low < 0xe000 then
    return (0x10000 + (high - 0xd800) * 0x400 + (low - 0xdc00), 12)
  none

/-- The character and the length of the escape with which `cs` starts. -/
def escape (cs : List Char) : Except FaultCause (Char × Nat) :=
  match cs[1]?, cs[2]? with
  | some 'u', some '\x7b' =>
    match bracedEscape 3 0 9 (cs.drop 3) with
    | .ok (point, size) => .ok (Char.ofNat point, size)
    | .error shown => .error (.invalidUnicodeEscape (String.ofList (cs.take shown)))
  | some 'u', _ =>
    match fixedEscape cs with
    | some (point, size) => .ok (Char.ofNat point, size)
    | none => .error (.invalidUnicodeEscape (String.ofList (cs.take 6)))
  | some '"', _ => .ok ('"', 2)
  | some '\\', _ => .ok ('\\', 2)
  | some '/', _ => .ok ('/', 2)
  | some 'b', _ => .ok (Char.ofNat 8, 2)
  | some 'f', _ => .ok (Char.ofNat 12, 2)
  | some 'n', _ => .ok ('\n', 2)
  | some 'r', _ => .ok ('\r', 2)
  | some 't', _ => .ok ('\t', 2)
  | _, _ => .error (.invalidEscape (String.ofList (cs.take 2)))

/-- The value of a string behind its opening quote and the total length, `offset` characters into the
token. `skip` characters belong to an escape that has been read. -/
def stringFrom (offset : Nat) : Nat → List Char → Except (FaultCause × Nat) (List Char × Nat)
  | skip + 1, _ :: rest => stringFrom (offset + 1) skip rest
  | _, [] => .error (.unterminatedString, offset)
  | 0, c :: rest =>
    if c = '"' then .ok ([], offset + 1)
    else if c = '\n' ∨ c = '\r' then .error (.unterminatedString, offset)
    else if c = '\\' then
      match escape (c :: rest) with
      | .error cause => .error (cause, offset)
      | .ok (d, size) =>
        (stringFrom (offset + 1) (size - 1) rest).map fun (cs, total) => (d :: cs, total)
    else (stringFrom (offset + 1) 0 rest).map fun (cs, total) => (c :: cs, total)

/-- The raw text of a block string behind its opening quotes, with escaped terminators restored, and
the total length. -/
def blockFrom (offset : Nat) : List Char → Except (FaultCause × Nat) (List Char × Nat)
  | '"' :: '"' :: '"' :: _ => .ok ([], offset + 3)
  | '\\' :: '"' :: '"' :: '"' :: rest =>
    (blockFrom (offset + 4) rest).map fun (cs, total) => ('"' :: '"' :: '"' :: cs, total)
  | c :: rest => (blockFrom (offset + 1) rest).map fun (cs, total) => (c :: cs, total)
  | [] => .error (.unterminatedString, offset)

/-- The lines of a text, whatever ends them. -/
def splitLines : List Char → List (List Char)
  | [] => [[]]
  | '\r' :: '\n' :: rest => [] :: splitLines rest
  | c :: rest =>
    if c = '\n' ∨ c = '\r' then [] :: splitLines rest
    else
      match splitLines rest with
      | line :: lines => (c :: line) :: lines
      | [] => [[c]]

/-- Number of spaces and tabs in front of a line. -/
def indentation (line : List Char) : Nat :=
  (line.takeWhile fun c => c == ' ' || c == '\t').length

/-- The line holds spaces and tabs only. -/
def isBlankLine (line : List Char) : Bool := indentation line = line.length

/-- The value of a block string: the indentation that all lines but the first share is removed, and so
are blank lines at both ends. -/
def dedent (raw : List Char) : List Char :=
  let lines := splitLines raw
  let indents := ((lines.drop 1).filter fun l => !isBlankLine l).map indentation
  let shared := indents.min?
  let cut (line : List Char) : List Char :=
    match shared with
    | some n => line.drop n
    | none => []
  let stripped := lines.take 1 ++ (lines.drop 1).map cut
  let marked := stripped.zip (lines.map isBlankLine)
  let front := marked.dropWhile (·.2)
  let kept := (front.reverse.dropWhile (·.2)).reverse
  List.intercalate ['\n'] (kept.map (·.1))

/-- A step from the outcome of reading a lexeme of some length. -/
def Step.ofResult : Except (FaultCause × Nat) (Lexeme × Nat) → Step
  | .ok (l, size) => .lexeme l (size - 1)
  | .error (cause, offset) => .fault cause offset

/-- What the text `c :: rest` starts with. -/
def step (c : Char) (rest : List Char) : Step :=
  if c = ' ' ∨ c = '\t' ∨ c = ',' ∨ c = '\n' ∨ c.toNat = 0xfeff then .blank 0
  else if c = '\r' then .blank (if rest.head? = some '\n' then 1 else 0)
  else if c = '#' then
    let text := rest.takeWhile fun d => !(d == '\n' || d == '\r')
    .lexeme (.comment (String.ofList text)) text.length
  else if c = '"' then
    if rest.take 2 = ['"', '"'] then
      .ofResult ((blockFrom 3 (rest.drop 2)).map fun (raw, size) =>
        (.blockString (String.ofList (dedent raw)), size))
    else .ofResult ((stringFrom 1 0 rest).map fun (cs, size) => (.string (String.ofList cs), size))
  else if c = '.' then
    match rest with
    | '.' :: '.' :: _ => .lexeme (.punct .spread) 2
    | '.' :: _ => .fault .doubleDot 0
    | d :: _ =>
      if d.isDigit then .fault (.leadingDot (String.ofList (rest.takeWhile Char.isDigit))) 0
      else .fault (.unexpectedCharacter (some '.')) 0
    | [] => .fault (.unexpectedCharacter (some '.')) 0
  else if c.isDigit ∨ c = '-' then .ofResult (number (c :: rest))
  else if isNameStart c then
    let more := rest.takeWhile isNameContinue
    .lexeme (.name (String.ofList (c :: more))) more.length
  else
    match Punct.ofChar? c with
    | some p => .lexeme (.punct p) 0
    | none => .fault (if c = '\'' then .singleQuote else .unexpectedCharacter (some c)) 0

/-- How a text ends: at its last character, or at a fault. -/
inductive Ending where
  | endOfFile (position : Position)
  | fault (f : Fault)
  deriving DecidableEq, Repr

/-- The tokens of a text, comments included, and how it ends. -/
structure TokenStream where
  tokens : List Token
  ending : Ending
  deriving DecidableEq, Repr

/-- A token in front of a stream. -/
def TokenStream.cons (t : Token) (s : TokenStream) : TokenStream := { s with tokens := t :: s.tokens }

/-- The tokens of a text whose first character stands at `p`. -/
def lexFrom (p : Position) (cs : List Char) : TokenStream :=
  match cs with
  | [] => ⟨[], .endOfFile p⟩
  | c :: rest =>
    match step c rest with
    | .blank more => lexFrom (p.after (c :: rest.take more)) (rest.drop more)
    | .lexeme l more =>
      (lexFrom (p.after (c :: rest.take more)) (rest.drop more)).cons ⟨l, p⟩
    | .fault cause offset => ⟨[], .fault ⟨cause, p.after ((c :: rest).take offset)⟩⟩
termination_by cs.length
decreasing_by all_goals simp only [List.length_drop, List.length_cons]; omega

/-- The tokens of a text. -/
def lex (text : String) : TokenStream := lexFrom .start text.toList

end SchemaLint.Sdl

import SchemaLint.Yaml.Cursor

/-!
# Scalars as they are written

A scalar may be plain, between quotes, or a block of lines. Line ends within a scalar are folded: a
single one stands for a space, and of several all but the first are kept. Only in a literal block all
are kept.
-/

namespace SchemaLint.Yaml

/-- What folding makes of a line end and the line ends behind it. -/
def folded (first : Char) (more : List Char) : List Char :=
  if first ≠ '\n' then first :: more else if more.isEmpty then [' '] else more

namespace Scalar

/-! ## Plain scalars -/

/-- Characters that end a plain scalar between brackets. -/
def isFlowMark (c : Char) : Bool := [',', '[', ']', '\x7b', '\x7d'].contains c

/-- The piece of a plain scalar up to the next gap or mark. -/
def plainPiece (inFlow : Bool) : List Char → List Char
  | [] => []
  | c :: rest =>
    let colonEnds := c == ':' && (isGap rest.head? || (inFlow && rest.head?.any isFlowMark))
    if isSpace c || colonEnds || (inFlow && (isFlowMark c || c == '?')) then []
    else c :: plainPiece inFlow rest

/-- The line ends and spaces in front of the next piece of a plain scalar, of which line ends are
kept. It is `none` before a separator of documents. -/
def plainBreaks : Nat → Cursor → List Char → Option (List Char) × Cursor
  | 0, c, breaks => (some breaks, c)
  | fuel + 1, c, breaks =>
    if c.next = some ' ' then plainBreaks fuel c.advance breaks
    else
      match c.lineEnd? with
      | none => (some breaks, c)
      | some (b, c) =>
        if c.isSeparator then (none, c) else plainBreaks fuel c (breaks ++ [b])

/-- What stands between two pieces of a plain scalar, empty if the scalar ends, and whether it holds a
line end. -/
def plainSpace (c : Cursor) : List Char × Bool × Cursor :=
  let (spaces, c) := c.takeWhile (· == ' ')
  match c.lineEnd? with
  | none => (spaces, false, c)
  | some (b, c) =>
    if c.isSeparator then ([], true, c)
    else
      match plainBreaks c.rest.length c [] with
      | (none, c) => ([], true, c)
      | (some breaks, c) => (folded b breaks, true, c)

/-- A plain scalar from a piece on. `back` is what has been read of it, the last character first. A
space stands in front of the piece, and `broken` tells whether it holds a line end. The answer tells
whether the last space does. -/
def plainFrom (inFlow : Bool) (indent : Int) :
    Nat → Cursor → List Char → List Char → Bool → List Char × Bool × Cursor
  | 0, c, back, _, broken => (back.reverse, broken, c)
  | fuel + 1, c, back, space, broken =>
    match plainPiece inFlow c.rest with
    | [] => (back.reverse, broken, c)
    | piece =>
      let back := piece.reverse ++ (space.reverse ++ back)
      let (space, broken, c) := plainSpace (c.advanceBy piece.length)
      if space.isEmpty || c.next == some '#' || (!inFlow && decide ((c.column : Int) < indent))
      then (back.reverse, broken, c)
      else plainFrom inFlow indent fuel c back space broken

/-- The plain scalar at a cursor, and whether a line end was read behind it. -/
def plain (inFlow : Bool) (indent : Int) (c : Cursor) : String × Bool × Cursor :=
  let (text, broken, c) := plainFrom inFlow indent c.rest.length c [] [] false
  (String.ofList text, broken, c)

/-! ## Scalars between quotes -/

/-- The characters that escapes of one letter stand for. -/
def escapes : List (Char × Char) :=
  [('0', '\x00'), ('a', '\x07'), ('b', '\x08'), ('t', '\t'), ('\t', '\t'), ('n', '\n'),
    ('v', '\x0b'), ('f', '\x0c'), ('r', '\r'), ('e', '\x1b'), (' ', ' '), ('"', '"'),
    ('\\', '\\'), ('/', '/'), ('N', '\u0085'), ('_', '\u00a0'), ('L', '\u2028'),
    ('P', '\u2029')]

/-- Number of hexadecimal digits behind a letter. -/
def escapeDigits : Char → Option Nat
  | 'x' => some 2
  | 'u' => some 4
  | 'U' => some 8
  | _ => none

/-- The line ends between quotes, spaces and tabs aside. -/
def quotedBreaks : Nat → Cursor → List Char → Except Fault (List Char × Cursor)
  | 0, c, breaks => .ok (breaks, c)
  | fuel + 1, c, breaks =>
    if c.isSeparator then .error (c.fault .separatorInQuotes)
    else
      let c := c.skipWhile fun ch => ch == ' ' || ch == '\t'
      match c.lineEnd? with
      | none => .ok (breaks, c)
      | some (b, c) => quotedBreaks fuel c (breaks ++ [b])

/-- The character of an escape by its code. -/
def escapeCode (count : Nat) (c : Cursor) : Except Fault (List Char × Cursor) :=
  let digits := c.rest.take count
  match digits.find? (Text.Hex.digit? · |>.isNone) with
  | some bad => .error (c.fault (.digitsExpected count (some bad)))
  | none =>
    match Text.Hex.value? digits with
    | some code =>
      if digits.length < count then .error (c.fault (.digitsExpected count none))
      else if 0x110000 ≤ code then .error (c.fault (.number (.noCharacter code)))
      else .ok ([Char.ofNat code], c.advanceBy count)
    | none => .error (c.fault (.digitsExpected count none))

/-- What an escape stands for, read behind its backslash. An escaped line end stands for nothing. -/
def escape (c : Cursor) : Except Fault (List Char × Cursor) :=
  match c.next with
  | none => .error (c.fault (.unknownEscape none))
  | some ch =>
    match escapes.lookup ch, escapeDigits ch with
    | some plain, _ => .ok ([plain], c.advance)
    | none, some count => escapeCode count c.advance
    | none, none =>
      match c.lineEnd? with
      | some (_, c) => quotedBreaks (c.rest.length + 1) c []
      | none => .error (c.fault (.unknownEscape (some ch)))

/-- What spaces and line ends between quotes stand for. -/
def quotedSpace (c : Cursor) : Except Fault (List Char × Cursor) := do
  let (spaces, c) := c.takeWhile fun ch => ch == ' ' || ch == '\t'
  match c.lineEnd? with
  | none => return (spaces, c)
  | some (b, c) =>
    let (breaks, c) ← quotedBreaks (c.rest.length + 1) c []
    return (folded b breaks, c)

/-- A scalar from behind its opening quote on. `back` is what has been read of it, the last character
first. -/
def quotedFrom (quote : Char) : Nat → Cursor → List Char → Except Fault (List Char × Cursor)
  | 0, c, _ => .error (c.fault .unclosedQuote)
  | fuel + 1, c, back =>
    match c.rest with
    | [] => .error (c.fault .unclosedQuote)
    | ch :: rest =>
      if ch = quote then
        if quote = '\'' ∧ rest.head? = some '\'' then
          quotedFrom quote fuel (c.advanceBy 2) ('\'' :: back)
        else .ok (back.reverse, c.advance)
      else if quote = '"' ∧ ch = '\\' then
        match escape c.advance with
        | .error f => .error f
        | .ok (more, c) => quotedFrom quote fuel c (more.reverse ++ back)
      else if isSpace ch then
        match quotedSpace c with
        | .error f => .error f
        | .ok (more, c) => quotedFrom quote fuel c (more.reverse ++ back)
      else quotedFrom quote fuel c.advance (ch :: back)

/-- The scalar between quotes at a cursor. -/
def quoted (quote : Char) (c : Cursor) : Except Fault (String × Cursor) := do
  let (text, c) ← quotedFrom quote (c.rest.length + 1) c.advance []
  return (String.ofList text, c)

/-! ## Blocks of lines -/

/-- What is done with the line ends behind a block: the first is kept, none is, or all are. -/
inductive Chomping where
  | clip | strip | keep
  deriving DecidableEq, Repr

/-- The chomping that a character tells. -/
def Chomping.ofChar? : Char → Option Chomping
  | '+' => some .keep
  | '-' => some .strip
  | _ => none

/-- The chomping indicator at a cursor, if there is one. -/
def chomping (c : Cursor) : Option Chomping × Cursor :=
  match c.next.bind Chomping.ofChar? with
  | some chomping => (some chomping, c.advance)
  | none => (none, c)

/-- The indentation indicator at a cursor, if there is one. -/
def indentation (c : Cursor) : Except Fault (Option Nat × Cursor) :=
  match c.next with
  | some ch =>
    if ch = '0' then .error (c.fault .zeroIndentation)
    else if ch.isDigit then .ok (some (ch.toNat - '0'.toNat), c.advance)
    else .ok (none, c)
  | none => .ok (none, c)

/-- The indicators of a block, which come in either order. -/
def indicators (c : Cursor) : Except Fault ((Chomping × Option Nat) × Cursor) := do
  let (first, c) := chomping c
  let (indent, c) ← indentation c
  let (second, c) := if first.isNone && indent.isSome then chomping c else (none, c)
  if c.next.all fun ch => ch == ' ' || isBreak ch then
    return (((first <|> second).getD .clip, indent), c)
  else throw (c.fault (.headerExpected c.next))

/-- The rest of the line of the indicators. -/
def headerEnd (c : Cursor) : Except Fault (Unit × Cursor) :=
  let c := (c.skipWhile (· == ' ')).skipComment
  match c.lineEnd? with
  | some (_, c) => .ok ((), c)
  | none =>
    if c.next.isNone then .ok ((), c) else .error (c.fault (.lineEndExpected c.next))

/-- The empty lines in front of a block, and the greatest column reached by a space. -/
def blockIndent : Nat → Cursor → List Char → Nat → List Char × Nat × Cursor
  | 0, c, breaks, deepest => (breaks, deepest, c)
  | fuel + 1, c, breaks, deepest =>
    match c.lineEnd? with
    | some (b, c) => blockIndent fuel c (breaks ++ [b]) deepest
    | none =>
      if c.next = some ' ' then
        let c := c.advance
        blockIndent fuel c breaks (max deepest c.column)
      else (breaks, deepest, c)

/-- The cursor behind the spaces of an indentation. -/
def skipIndent (indent : Nat) (c : Cursor) : Cursor :=
  c.advanceBy (min (indent - c.column) (c.rest.takeWhile (· == ' ')).length)

/-- The empty lines in front of the next line of a block. -/
def blockBreaks (indent : Nat) : Nat → Cursor → List Char → List Char × Cursor
  | 0, c, breaks => (breaks, c)
  | fuel + 1, c, breaks =>
    let c := skipIndent indent c
    match c.lineEnd? with
    | some (b, c) => blockBreaks indent fuel c (breaks ++ [b])
    | none => (breaks, c)

/-- The cursor is at a line of a block. -/
def atLine (indent : Nat) (c : Cursor) : Bool := c.column == indent && c.next.isSome

/-- The line at a cursor starts with a space or a tab. -/
def isMore (c : Cursor) : Bool := c.next == some ' ' || c.next == some '\t'

/-- The lines of a block from a line on, in front of which there are `breaks`. `back` is what has been
read of the block, the last character first. The answer is the text, the end of the last line and the
line ends behind it. -/
def blockFrom (isFolded : Bool) (indent : Nat) :
    Nat → Cursor → List Char → List Char → List Char × List Char × List Char × Cursor
  | 0, c, back, breaks => (back.reverse, [], breaks, c)
  | fuel + 1, c, back, breaks =>
    let more := isMore c
    let (line, c) := c.takeWhile (!isBreak ·)
    let back := line.reverse ++ (breaks.reverse ++ back)
    let (lineEnd, c) :=
      match c.lineEnd? with
      | some (b, c) => ([b], c)
      | none => ([], c)
    let (breaks, c) := blockBreaks indent (c.rest.length + 1) c []
    if atLine indent c then
      let join :=
        if isFolded && lineEnd == ['\n'] && !more && !isMore c then
          if breaks.isEmpty then [' '] else []
        else lineEnd
      blockFrom isFolded indent fuel c (join.reverse ++ back) breaks
    else (back.reverse, lineEnd, breaks, c)

/-- The block of lines at a cursor, within the indentation `outer`. -/
def block (isFolded : Bool) (outer : Int) (c : Cursor) : Except Fault (String × Cursor) := do
  let ((chomping, increment), c) ← indicators c.advance
  let ((), c) ← headerEnd c
  let least := (max (outer + 1) 1).toNat
  let (indent, breaks, c) :=
    match increment with
    | some n =>
      let indent := least + n - 1
      let (breaks, c) := blockBreaks indent (c.rest.length + 1) c []
      (indent, breaks, c)
    | none =>
      let (breaks, deepest, c) := blockIndent (c.rest.length + 1) c [] 0
      (max least deepest, breaks, c)
  let (text, lineEnd, breaks, c) :=
    if atLine indent c then blockFrom isFolded indent (c.rest.length + 1) c [] breaks
    else ([], [], breaks, c)
  let tail :=
    match chomping with
    | .strip => []
    | .clip => lineEnd
    | .keep => lineEnd ++ breaks
  return (String.ofList (text ++ tail), c)

/-! ## Names of anchors -/

/-- Characters of a name. -/
def isNameChar (c : Char) : Bool := c.isAlphanum || c == '-' || c == '_'

/-- The name behind the mark of an anchor or an alias. -/
def name (c : Cursor) : Except Fault (String × Cursor) :=
  match c.advance.takeWhile isNameChar with
  | ([], c) => .error (c.fault (.nameExpected c.next))
  | (name, c) =>
    if isGap c.next || c.next.any (fun ch => "?:,]\x7d%@\x60".toList.contains ch) then
      .ok (String.ofList name, c)
    else .error (c.fault (.nameExpected c.next))

end Scalar
end SchemaLint.Yaml

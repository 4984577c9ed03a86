import SchemaLint.Yaml.Scalar
import SchemaLint.Yaml.Token

/-!
# Lexical analysis of YAML texts

A text is read from the front. What may be a key is kept back, together with everything behind it,
until the colon behind it is found or cannot come any more; the colon puts the token of a key in front.
Indentation opens and closes collections.

Tags and directives are not read.
-/

namespace SchemaLint.Yaml

/-- Something that is a key if a colon follows it on its line. `number` is that of its first token. At
the start of a line of a mapping it is `required` to be a key. -/
structure Candidate where
  number : Nat
  required : Bool
  cursor : Cursor

/-- A text that is being read.

* `queue` holds the tokens that are kept back, and `taken` is the number of those that are not;
* `flow` counts open brackets;
* `indent` is the column of the innermost collection outside brackets, and `outer` those around it;
* `keysAllowed` tells whether a key may start here;
* `candidates` are what may be keys, by the number of open brackets around them. -/
structure Lexer where
  cursor : Cursor
  done : Bool
  queue : List Token
  taken : Nat
  flow : Nat
  indent : Int
  outer : List Int
  keysAllowed : Bool
  candidates : List (Nat × Candidate)

namespace Lexer

/-- The start of a text. -/
def start (text : List Char) : Lexer := ⟨.start text, false, [], 0, 0, -1, [], true, []⟩

/-- A fault at the cursor. -/
def fault (l : Lexer) (cause : FaultCause) : Except Fault Lexer := .error (l.cursor.fault cause)

/-- The lexer with one more token, placed at the cursor. -/
def push (l : Lexer) (lexeme : Lexeme) : Lexer :=
  { l with queue := l.queue ++ [⟨lexeme, l.cursor.mark⟩] }

/-- The lexer with one more token and its cursor behind `n` characters. -/
def pushAndAdvance (l : Lexer) (lexeme : Lexeme) (n : Nat) : Lexer :=
  { l.push lexeme with cursor := l.cursor.advanceBy n }

/-- The candidate cannot become a key any more: its line has ended, or it is too far behind. -/
def isStale (l : Lexer) (k : Candidate) : Bool :=
  k.cursor.line != l.cursor.line || 1024 < l.cursor.offset - k.cursor.offset

/-- The lexer without stale candidates. -/
def dropStale (l : Lexer) : Except Fault Lexer :=
  if l.candidates.any fun k => l.isStale k.2 && k.2.required then l.fault .missingColon
  else .ok { l with candidates := l.candidates.filter (!l.isStale ·.2) }

/-- The lexer without a candidate within the same brackets. -/
def dropCandidate (l : Lexer) : Except Fault Lexer :=
  if l.candidates.any fun k => k.1 == l.flow && k.2.required then l.fault .missingColon
  else .ok { l with candidates := l.candidates.filter (·.1 != l.flow) }

/-- The lexer with what starts at the cursor as a candidate. -/
def addCandidate (l : Lexer) : Except Fault Lexer :=
  if l.keysAllowed then do
    let required := l.flow == 0 && l.indent == l.cursor.column
    let l ← l.dropCandidate
    return { l with
             candidates := (l.flow, ⟨l.taken + l.queue.length, required, l.cursor⟩) ::
               l.candidates }
  else .ok l

/-- The lexer with the collections closed that are indented deeper than `column`. -/
def closeBlocks (column : Int) (l : Lexer) : Lexer :=
  if l.flow = 0 then
    let closed := (l.indent :: l.outer).takeWhile (column < ·)
    let open_ := (l.indent :: l.outer).dropWhile (column < ·)
    { l with
      queue := l.queue ++ closed.map fun _ => ⟨.blockEnd, l.cursor.mark⟩
      indent := open_.head?.getD (-1)
      outer := open_.tail }
  else l

/-- The lexer in a collection at `column` if that is deeper than the innermost one, and whether it
is. -/
def openBlock (column : Nat) (l : Lexer) : Bool × Lexer :=
  if l.indent < column then (true, { l with indent := column, outer := l.indent :: l.outer })
  else (false, l)

/-- The lexer with the token of a collection at the cursor, if one opens there. -/
def pushBlock (lexeme : Lexeme) (l : Lexer) : Lexer :=
  match l.openBlock l.cursor.column with
  | (true, l) => l.push lexeme
  | (false, l) => l

/-- The cursor behind spaces, comments and line ends, at most `fuel` of the last, and whether there was
a line end. -/
def gapFrom : Nat → Cursor → Bool → Cursor × Bool
  | 0, c, broken => (c, broken)
  | fuel + 1, c, broken =>
    let c := (c.skipWhile (· == ' ')).skipComment
    match c.lineEnd? with
    | some (_, c) => gapFrom fuel c true
    | none => (c, broken)

/-- The lexer at the next token. Outside brackets a key may start behind a line end. -/
def skipGap (l : Lexer) : Lexer :=
  let c := l.cursor
  let c := if c.offset = 0 ∧ c.next = some '\uFEFF' then c.advance else c
  let (c, broken) := gapFrom (c.rest.length + 1) c false
  { l with cursor := c, keysAllowed := l.keysAllowed || broken && l.flow == 0 }

/-- The end of the text. -/
def readEnd (l : Lexer) : Except Fault Lexer := do
  let l ← (l.closeBlocks (-1)).dropCandidate
  return { l.push .streamEnd with done := true, keysAllowed := false, candidates := [] }

/-- A separator of documents. -/
def readSeparator (lexeme : Lexeme) (l : Lexer) : Except Fault Lexer := do
  let l ← (l.closeBlocks (-1)).dropCandidate
  return { l.pushAndAdvance lexeme 3 with keysAllowed := false }

/-- An opening bracket. -/
def readOpening (lexeme : Lexeme) (l : Lexer) : Except Fault Lexer := do
  let l ← l.addCandidate
  return { l.pushAndAdvance lexeme 1 with flow := l.flow + 1, keysAllowed := true }

/-- A closing bracket. -/
def readClosing (lexeme : Lexeme) (l : Lexer) : Except Fault Lexer := do
  let l ← l.dropCandidate
  return { l.pushAndAdvance lexeme 1 with flow := l.flow - 1, keysAllowed := false }

/-- A comma. -/
def readComma (l : Lexer) : Except Fault Lexer := do
  let l ← l.dropCandidate
  return { l.pushAndAdvance .comma 1 with keysAllowed := true }

/-- The dash in front of an entry of a sequence. -/
def readEntry (l : Lexer) : Except Fault Lexer := do
  if l.flow = 0 ∧ !l.keysAllowed then l.fault .misplacedEntry
  else
    let l := if l.flow = 0 then l.pushBlock .blockSequence else l
    let l ← l.dropCandidate
    return { l.pushAndAdvance .entry 1 with keysAllowed := true }

/-- The question mark in front of a key. -/
def readKey (l : Lexer) : Except Fault Lexer := do
  if l.flow = 0 ∧ !l.keysAllowed then l.fault .misplacedKey
  else
    let l := if l.flow = 0 then l.pushBlock .blockMapping else l
    let l ← l.dropCandidate
    return { l.pushAndAdvance .key 1 with keysAllowed := l.flow == 0 }

/-- The colon behind a candidate, which becomes a key and may open a mapping. -/
def readColon (k : Candidate) (l : Lexer) : Lexer :=
  let (opens, l) := if l.flow = 0 then l.openBlock k.cursor.column else (false, l)
  let lexemes := if opens then [Lexeme.blockMapping, .key] else [.key]
  let tokens := lexemes.map fun lexeme => (⟨lexeme, k.cursor.mark⟩ : Token)
  let place := k.number - l.taken
  { l with
    queue := l.queue.take place ++ tokens ++ l.queue.drop place
    candidates := l.candidates.filter (·.1 != l.flow)
    keysAllowed := false }.pushAndAdvance .value 1

/-- The colon in front of a value. -/
def readValue (l : Lexer) : Except Fault Lexer :=
  match l.candidates.lookup l.flow with
  | some k => .ok (l.readColon k)
  | none => do
    if l.flow = 0 ∧ !l.keysAllowed then l.fault .misplacedValue
    else
      let l := if l.flow = 0 then l.pushBlock .blockMapping else l
      let l ← l.dropCandidate
      return { l.pushAndAdvance .value 1 with keysAllowed := l.flow == 0 }

/-- An anchor or an alias. -/
def readName (lexeme : String → Lexeme) (l : Lexer) : Except Fault Lexer := do
  let l ← l.addCandidate
  let (name, c) ← Scalar.name l.cursor
  return { l.push (lexeme name) with cursor := c, keysAllowed := false }

/-- A block of lines. -/
def readBlock (isFolded : Bool) (l : Lexer) : Except Fault Lexer := do
  let l ← l.dropCandidate
  let (text, c) ← Scalar.block isFolded l.indent l.cursor
  return { l.push (.scalar text false) with cursor := c, keysAllowed := true }

/-- A scalar between quotes. -/
def readQuoted (quote : Char) (l : Lexer) : Except Fault Lexer := do
  let l ← l.addCandidate
  let (text, c) ← Scalar.quoted quote l.cursor
  return { l.push (.scalar text false) with cursor := c, keysAllowed := false }

/-- A plain scalar. -/
def readPlain (l : Lexer) : Except Fault Lexer := do
  let l ← l.addCandidate
  let (text, broken, c) := Scalar.plain (l.flow != 0) (l.indent + 1) l.cursor
  return { l.push (.scalar text true) with cursor := c, keysAllowed := broken }

/-- Characters that start no plain scalar, unless something follows them at once. -/
def isIndicator (c : Char) : Bool :=
  "-?:,[]\x7b\x7d#&*!|>'\"%@\x60".toList.contains c

/-- A plain scalar starts at the cursor. -/
def startsPlain (l : Lexer) (c : Char) : Bool :=
  (!isSpace c && !isIndicator c) ||
    (!isGap (l.cursor.peek 1) && (c == '-' || (l.flow == 0 && (c == '?' || c == ':'))))

/-- The token that starts with a character. -/
def readAt (c : Char) (l : Lexer) : Except Fault Lexer :=
  let gapBehind := isGap (l.cursor.peek 1)
  let inFlow := l.flow != 0
  if l.cursor.column = 0 ∧ l.cursor.isRule '-' then l.readSeparator .documentStart
  else if l.cursor.column = 0 ∧ l.cursor.isRule '.' then l.readSeparator .documentEnd
  else if c = '[' then l.readOpening .openSequence
  else if c = '\x7b' then l.readOpening .openMapping
  else if c = ']' then l.readClosing .closeSequence
  else if c = '\x7d' then l.readClosing .closeMapping
  else if c = ',' then l.readComma
  else if c = '-' ∧ gapBehind then l.readEntry
  else if c = '?' ∧ (inFlow || gapBehind) then l.readKey
  else if c = ':' ∧ (inFlow || gapBehind) then l.readValue
  else if c = '*' then l.readName .reference
  else if c = '&' then l.readName .anchor
  else if c = '|' ∧ !inFlow then l.readBlock false
  else if c = '>' ∧ !inFlow then l.readBlock true
  else if c = '\'' ∨ c = '"' then l.readQuoted c
  else if l.startsPlain c then l.readPlain
  else l.fault (.unexpectedCharacter c)

/-- Reads on by one token, with what belongs to it. -/
def step (l : Lexer) : Except Fault Lexer := do
  let l ← l.skipGap.dropStale
  let l := l.closeBlocks l.cursor.column
  match l.cursor.next with
  | none => l.readEnd
  | some c => l.readAt c

/-- More has to be read before the first token can be given out. -/
def isWaiting (l : Lexer) : Bool :=
  !l.done && (l.queue.isEmpty || l.candidates.any (·.2.number == l.taken))

/-- Gives out tokens, reading on where needed, in at most `fuel` steps. Behind the tokens there may be
a fault. -/
def tokensFrom : Nat → Lexer → List Token × Option Fault
  | 0, _ => ([], none)
  | fuel + 1, l =>
    match if l.done || l.queue.isEmpty then .ok l else l.dropStale with
    | .error f => ([], some f)
    | .ok l =>
      if l.isWaiting then
        match l.step with
        | .error f => ([], some f)
        | .ok l => tokensFrom fuel l
      else
        match l.queue with
        | [] => ([], none)
        | t :: rest =>
          let (tokens, fault) := tokensFrom fuel { l with queue := rest, taken := l.taken + 1 }
          (t :: tokens, fault)

end Lexer

/-- The tokens of a text up to its first fault, and that fault. A character gives rise to few tokens,
so that the number of steps is bounded. -/
def lex (text : List Char) : List Token × Option Fault :=
  Lexer.tokensFrom (8 * text.length + 16) (.start text)

end SchemaLint.Yaml

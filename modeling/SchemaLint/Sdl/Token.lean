/-!
# Tokens of the schema language

A token is a lexeme with the position of its first character. Comments are tokens too: the grammar
passes over them, but directives to the linter are written in them.
-/

namespace SchemaLint.Sdl

/-- A line and a column, both counted from 1. Zero stands for an unknown position. -/
structure Position where
  line : Nat
  column : Nat
  deriving DecidableEq, Repr, Inhabited

namespace Position

/-- The position of a thing that was read without positions. -/
def unknown : Position := ⟨0, 0⟩

/-- The position of the first character of a text. -/
def start : Position := ⟨1, 1⟩

/-- The position behind the characters `cs`, of which the first stands at `p`. A line ends with a line
feed, a carriage return or both. -/
def after (p : Position) : List Char → Position
  | '\r' :: '\n' :: rest => after ⟨p.line + 1, 1⟩ rest
  | c :: rest =>
    if c = '\n' ∨ c = '\r' then after ⟨p.line + 1, 1⟩ rest
    else after ⟨p.line, p.column + 1⟩ rest
  | [] => p

end Position

/-- Punctuators. -/
inductive Punct where
  | bang | dollar | amp | parenL | parenR | spread | colon | equals | at | bracketL | bracketR
  | braceL | pipe | braceR
  deriving DecidableEq, Repr

/-- The text of a punctuator. -/
def Punct.text : Punct → String
  | .bang => "!"
  | .dollar => "$"
  | .amp => "&"
  | .parenL => "("
  | .parenR => ")"
  | .spread => "..."
  | .colon => ":"
  | .equals => "="
  | .at => "@"
  | .bracketL => "["
  | .bracketR => "]"
  | .braceL => "\x7b"
  | .pipe => "|"
  | .braceR => "\x7d"

/-- The punctuator of one character. -/
def Punct.ofChar? (c : Char) : Option Punct :=
  match c with
  | '!' => some .bang
  | '$' => some .dollar
  | '&' => some .amp
  | '(' => some .parenL
  | ')' => some .parenR
  | ':' => some .colon
  | '=' => some .equals
  | '@' => some .at
  | '[' => some .bracketL
  | ']' => some .bracketR
  | '\x7b' => some .braceL
  | '|' => some .pipe
  | '\x7d' => some .braceR
  | _ => none

/-- What a token is, apart from its position. Strings hold their value, numbers their text. -/
inductive Lexeme where
  | punct (p : Punct)
  | name (text : String)
  | int (text : String)
  | float (text : String)
  | string (value : String)
  | blockString (value : String)
  | comment (text : String)
  | endOfFile
  deriving DecidableEq, Repr

/-- How a lexeme is called in messages. -/
def Lexeme.describe : Lexeme → String
  | .punct p => s!"'{p.text}'"
  | .name text => s!"Name '{text}'"
  | .int text => s!"Int '{text}'"
  | .float text => s!"Float '{text}'"
  | .string value => s!"String '{value}'"
  | .blockString value => s!"BlockString '{value}'"
  | .comment text => s!"Comment '{text}'"
  | .endOfFile => "<EOF>"

/-- The text or value that a lexeme carries. -/
def Lexeme.value? : Lexeme → Option String
  | .punct _ | .endOfFile => none
  | .name s | .int s | .float s | .string s | .blockString s | .comment s => some s

/-- A lexeme and the position of its first character. -/
structure Token where
  lexeme : Lexeme
  position : Position
  deriving DecidableEq, Repr

/-- The token is a comment. -/
def Token.isComment (t : Token) : Bool :=
  match t.lexeme with
  | .comment _ => true
  | _ => false

end SchemaLint.Sdl

import SchemaLint.Sdl.Token
import SchemaLint.Text.Basic

/-!
# Syntax faults

Why a text is not a document of the schema language, and where.
-/

namespace SchemaLint.Sdl

/-- The causes of a syntax fault. A character that is missing at the end of the text is `none`. -/
inductive FaultCause where
  | unexpectedCharacter (c : Option Char)
  | singleQuote
  | doubleDot
  | leadingDot (digits : String)
  | digitAfterZero (c : Option Char)
  | digitExpected (c : Option Char)
  | unterminatedString
  | invalidEscape (text : String)
  | invalidUnicodeEscape (text : String)
  | unexpected (found : Lexeme)
  | expectedPunct (wanted : Punct) (found : Lexeme)
  | expectedName (found : Lexeme)
  | expectedKeyword (wanted : String) (found : Lexeme)
  | describedQuery
  | describedOther
  | reservedEnumValue (found : Lexeme)
  | variableInConstant (name : String)
  | nestedTooDeeply
  deriving DecidableEq, Repr

/-- How a character is shown: itself between quotes when it is printable ASCII, else its code
point. -/
def describeChar : Option Char → String
  | none => "<EOF>"
  | some c =>
    if 32 ≤ c.toNat ∧ c.toNat < 127 then s!"'{c}'"
    else "U+" ++ String.ofList ((Text.Hex.padded 4 c.toNat).map Char.toUpper)

/-- The wording of a cause. -/
def FaultCause.message : FaultCause → String
  | .unexpectedCharacter c => s!"Unexpected character: {describeChar c}."
  | .singleQuote =>
    "Unexpected single quote character ('), did you mean to use a double quote (\")?"
  | .doubleDot => "Unexpected '..', did you mean '...'?"
  | .leadingDot digits =>
    s!"Invalid number, expected digit before '.', did you mean '0.{digits}'?"
  | .digitAfterZero c => s!"Invalid number, unexpected digit after 0: {describeChar c}."
  | .digitExpected c => s!"Invalid number, expected digit but got: {describeChar c}."
  | .unterminatedString => "Unterminated string."
  | .invalidEscape text => s!"Invalid character escape sequence: '{text}'."
  | .invalidUnicodeEscape text => s!"Invalid Unicode escape sequence: '{text}'."
  | .unexpected found => s!"Unexpected {found.describe}."
  | .expectedPunct wanted found => s!"Expected '{wanted.text}', found {found.describe}."
  | .expectedName found => s!"Expected Name, found {found.describe}."
  | .expectedKeyword wanted found => s!"Expected '{wanted}', found {found.describe}."
  | .describedQuery =>
    "Unexpected description, descriptions are not supported on shorthand queries."
  | .describedOther => "Unexpected description, only GraphQL definitions support descriptions."
  | .reservedEnumValue found =>
    s!"{found.describe} is reserved and cannot be used for an enum value."
  | .variableInConstant name => s!"Unexpected variable '${name}' in constant value."
  | .nestedTooDeeply => "Document is nested too deeply. Parsing aborted."

/-- A cause and its position. -/
structure Fault where
  cause : FaultCause
  position : Position
  deriving DecidableEq, Repr

/-- The wording of a fault. -/
def Fault.message (f : Fault) : String := "Syntax Error: " ++ f.cause.message

end SchemaLint.Sdl

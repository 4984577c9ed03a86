import SchemaLint.Number.Fault
import SchemaLint.Text.Quoted

/-!
# Faults of YAML texts

Why a text is not a YAML document, and where.
-/

namespace SchemaLint.Yaml

/-- A place in a text, counted from zero. -/
structure Mark where
  line : Nat
  column : Nat
  deriving DecidableEq, Repr

/-- The causes of a fault. A character that is missing at the end of the text is `none`. Tokens are
named by what they are shown as. A cause that has no name here is `stated` in words. -/
inductive FaultCause where
  | unprintable (c : Char) (offset : Nat)
  | unexpectedCharacter (c : Char)
  | missingColon
  | misplacedEntry
  | misplacedKey
  | misplacedValue
  | nameExpected (c : Option Char)
  | zeroIndentation
  | headerExpected (c : Option Char)
  | lineEndExpected (c : Option Char)
  | unclosedQuote
  | separatorInQuotes
  | unknownEscape (c : Option Char)
  | digitsExpected (count : Nat) (c : Option Char)
  | contentExpected (found : String)
  | blockEndExpected (found : String)
  | closingExpected (closing found : String)
  | documentStartExpected (found : String)
  | secondDocument
  | undefinedAlias (name : String)
  | repeatedAnchor
  | collectionAsKey
  | untypedScalar (kind : String)
  | tooDeep
  | number (fault : NumberFault)
  | stated (problem : String)
  deriving DecidableEq, Repr

/-- A missing or present character as it is shown. -/
def shownChar (c : Option Char) : String :=
  Text.quoted (String.ofList [c.getD (Char.ofNat 0)])

namespace FaultCause

/-- The wording of a cause. -/
def message : FaultCause → String
  | unprintable c offset =>
    let code := String.ofList (Text.Hex.padded 4 c.toNat)
    s!"unacceptable character #x{code}: special characters are not allowed\n" ++
      s!"  in \"<unicode string>\", position {offset}"
  | unexpectedCharacter c => s!"found character {shownChar c} that cannot start any token"
  | missingColon => "could not find expected ':'"
  | misplacedEntry => "sequence entries are not allowed here"
  | misplacedKey => "mapping keys are not allowed here"
  | misplacedValue => "mapping values are not allowed here"
  | nameExpected c => s!"expected alphabetic or numeric character, but found {shownChar c}"
  | zeroIndentation => "expected indentation indicator in the range 1-9, but found 0"
  | headerExpected c =>
    s!"expected chomping or indentation indicators, but found {shownChar c}"
  | lineEndExpected c => s!"expected a comment or a line break, but found {shownChar c}"
  | unclosedQuote => "found unexpected end of stream"
  | separatorInQuotes => "found unexpected document separator"
  | unknownEscape c => s!"found unknown escape character {shownChar c}"
  | digitsExpected count c =>
    s!"expected escape sequence of {count} hexadecimal numbers, but found {shownChar c}"
  | contentExpected found => s!"expected the node content, but found '{found}'"
  | blockEndExpected found => s!"expected <block end>, but found '{found}'"
  | closingExpected closing found => s!"expected ',' or '{closing}', but got '{found}'"
  | documentStartExpected found => s!"expected '<document start>', but found '{found}'"
  | secondDocument => "but found another document"
  | undefinedAlias name => s!"found undefined alias {Text.quoted name}"
  | repeatedAnchor => "second occurrence"
  | collectionAsKey => "found unhashable key"
  | untypedScalar kind =>
    s!"could not determine a constructor for the tag 'tag:yaml.org,2002:{kind}'"
  | tooDeep => "maximum recursion depth exceeded"
  | number fault => fault.message
  | stated problem => problem

end FaultCause

/-- A cause and, where it is known, a place. -/
structure Fault where
  cause : FaultCause
  mark : Option Mark
  deriving DecidableEq, Repr

end SchemaLint.Yaml

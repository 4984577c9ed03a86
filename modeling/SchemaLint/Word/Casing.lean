import SchemaLint.Word.Basic

/-!
# Letter case of identifiers

The three cases of a schema, each as a test of a name and as a conversion of its words: PascalCase
for types, camelCase for fields and arguments, SCREAMING_SNAKE_CASE for enum values. Both sides know
ASCII letters and digits only, which are all that a name of the schema language is made of.
-/

namespace SchemaLint.Word

/-- The text with a capital in front. -/
def upperFirst : List Char → List Char
  | [] => []
  | c :: cs => c.toUpper :: cs

/-- The text with a small letter in front. -/
def lowerFirst : List Char → List Char
  | [] => []
  | c :: cs => c.toLower :: cs

/-- All words with a capital in front, joined. -/
def pascalChars (cs : List Char) : List Char :=
  (splitChars cs).flatMap upperFirst

/-- Pascal case with a small first letter. -/
def camelChars (cs : List Char) : List Char :=
  lowerFirst (pascalChars cs)

/-- All words in capitals, joined by underscores. -/
def screamingChars (cs : List Char) : List Char :=
  List.intercalate ['_'] ((splitChars cs).map (·.map Char.toUpper))

/-- A name in PascalCase. -/
def toPascal (name : String) : String := String.ofList (pascalChars name.toList)

/-- A name in camelCase. -/
def toCamel (name : String) : String := String.ofList (camelChars name.toList)

/-- A name in SCREAMING_SNAKE_CASE. -/
def toScreaming (name : String) : String := String.ofList (screamingChars name.toList)

/-- The name with a capital in front. -/
def capitalized (name : String) : String := String.ofList (upperFirst name.toList)

/-- The name with a small letter in front. -/
def uncapitalized (name : String) : String := String.ofList (lowerFirst name.toList)

/-- `cs` is a character of class `first` and then characters of class `rest` only. -/
def hasShape (first rest : Char → Bool) : List Char → Bool
  | [] => false
  | c :: cs => first c && cs.all rest

/-- A capital, then letters and digits. -/
def isPascal (name : String) : Bool := hasShape Char.isUpper Char.isAlphanum name.toList

/-- A small letter, then letters and digits. -/
def isCamel (name : String) : Bool := hasShape Char.isLower Char.isAlphanum name.toList

/-- A capital, then capitals, digits and underscores. -/
def isScreaming (name : String) : Bool :=
  hasShape Char.isUpper (fun c => c.isUpper || c.isDigit || c == '_') name.toList

/-- The name starts with a capital. -/
def startsUpper (name : String) : Bool := name.toList.head?.any Char.isUpper

end SchemaLint.Word

import SchemaLint.Unicode.Digit

/-!
# Words of an identifier

An identifier in camelCase, PascalCase or snake_case is read as a sequence of words. A word is one
of

* a run of capitals, as in `URL`; two or more capitals take a plural `s` that no small letter
  follows, as in `IDs`, and leave their last capital to a word of small letters that follows, as in
  `URL`, `Path`;
* a run of small letters with at most one capital before it;
* a run of decimal digits.

All other characters, the underscore among them, only separate words.
-/

namespace SchemaLint.Word

/-- The word with which `cs` starts, empty when its first character belongs to no word. -/
def leading (cs : List Char) : List Char :=
  match cs with
  | [] => []
  | c :: _ =>
    if c.isUpper then
      let capitals := cs.takeWhile Char.isUpper
      match cs.dropWhile Char.isUpper with
      | [] => capitals
      | next :: rest =>
        if !next.isLower then capitals
        else if capitals.length = 1 then c :: (next :: rest).takeWhile Char.isLower
        else if next = 's' ∧ (rest.takeWhile Char.isLower).isEmpty then capitals ++ [next]
        else capitals.dropLast
    else if c.isLower then cs.takeWhile Char.isLower
    else if Unicode.isDecimal c then cs.takeWhile Unicode.isDecimal
    else []

/-- The words of a text, in order. -/
def splitChars : List Char → List (List Char)
  | [] => []
  | c :: cs =>
    let word := leading (c :: cs)
    if _ : word = [] then splitChars cs
    else word :: splitChars ((c :: cs).drop word.length)
termination_by cs => cs.length
decreasing_by
  · simp
  · have : 0 < (leading (c :: cs)).length := List.length_pos_iff.2 ‹_›
    simp only [List.length_drop, List.length_cons]
    omega

/-- The words of an identifier, in order. -/
def split (name : String) : List String :=
  (splitChars name.toList).map String.ofList

/-- The last word of an identifier, or the whole identifier when it has none. -/
def last (name : String) : String :=
  (split name).getLast?.getD name

/-- The first word of an identifier, and the characters that are left when as many are dropped from
the front. -/
def verbAndObject (name : String) : String × String :=
  match splitChars name.toList with
  | [] => ("", "")
  | verb :: _ => (String.ofList verb, String.ofList (name.toList.drop verb.length))

/-- `name` ends with `suffix`. -/
def endsWith (name suffix : String) : Bool :=
  suffix.toList.isSuffixOf name.toList

/-- The name without its last `n` characters. Nothing is left for `n = 0`. -/
def dropEnding (name : String) (n : Nat) : String :=
  if n = 0 then "" else String.ofList (name.toList.take (name.length - n))

/-- The name without the first of the suffixes that is shorter than the name and ends it. -/
def stripSuffix (suffixes : List String) (name : String) : String :=
  match suffixes.find? fun s => endsWith name s && s.length < name.length with
  | some s => dropEnding name s.length
  | none => name

/-- Suffixes that name the role of a type rather than the thing that it describes. -/
def roleSuffixes : List String :=
  ["Input", "Filter", "Draft", "Result", "Payload", "Connection", "Edge"]

end SchemaLint.Word

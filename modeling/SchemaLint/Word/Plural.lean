import SchemaLint.Word.Basic
import SchemaLint.Unicode.Lower

/-!
# Plurality of English words

Whether a word is a plural cannot be told from its letters alone, so the answer has three values:
`some true`, `some false`, and `none` where it stays open. A lexicon lists the irregular words; the
endings decide the others.
-/

namespace SchemaLint.Word

/-- The lower-case text `s` ends with `suffix`. -/
def endsLower (s : List Char) (suffix : String) : Bool :=
  suffix.toList.isSuffixOf s

/-- The regular English plural of a word. -/
def plural (word : String) : String :=
  let lower := (Unicode.lower word).toList
  let beforeLast := lower.reverse[1]?
  if endsLower lower "y" && beforeLast.any (fun c => !(c ∈ ['a', 'e', 'i', 'o', 'u'])) then
    String.ofList word.toList.dropLast ++ "ies"
  else if ["s", "x", "z", "ch", "sh"].any (endsLower lower) then word ++ "es"
  else word ++ "s"

/-- Words whose ending does not tell their number. -/
structure Lexicon where
  plurals : List String
  singulars : List String
  uncountable : List String

/-- The irregular words of English that a lexicon holds by default. -/
def Lexicon.english : Lexicon where
  plurals := ["people", "children", "men", "women", "data", "criteria", "media", "indices",
    "matrices", "vertices", "feet", "mice", "geese", "teeth", "phenomena", "alumni", "oxen"]
  singulars := ["person", "child", "man", "woman", "datum", "criterion", "medium", "index",
    "matrix", "vertex", "foot", "mouse", "goose", "tooth", "phenomenon", "alumnus", "ox",
    "alias", "atlas", "bias", "canvas", "gas", "lens", "yes", "this", "its", "has", "was",
    "always"]
  uncountable := ["news", "series", "species", "information", "metadata", "equipment",
    "feedback", "software", "hardware", "sheep", "fish", "deer", "aircraft", "means",
    "headquarters", "progress"]

/-- A list of the lexicon holds the lower-case word `w`, letter case aside. -/
def lists (words : List String) (w : String) : Bool :=
  words.any fun entry => Unicode.lower entry == w

/-- Whether a single word is plural. The lists come first, and uncountable words are left open; then
`-ics` is left open, `-ss`, `-us` and `-is` are singular, and any other `-s` of three letters or more
is plural. -/
def Lexicon.isPlural (lexicon : Lexicon) (word : String) : Option Bool :=
  let w := Unicode.lower word
  let cs := w.toList
  if cs.isEmpty || cs.all Unicode.isDigit then none
  else if lists lexicon.uncountable w then none
  else if lists lexicon.plurals w then some true
  else if lists lexicon.singulars w then some false
  else if endsLower cs "ics" then none
  else if endsLower cs "ss" || endsLower cs "us" || endsLower cs "is" then some false
  else some (endsLower cs "s" && decide (2 < cs.length))

/-- Plurality of an identifier, judged by its last word. -/
def isPluralName (isPlural : String → Option Bool) (name : String) : Option Bool :=
  (split name).getLast?.bind isPlural

end SchemaLint.Word

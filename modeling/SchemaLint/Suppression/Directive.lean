import SchemaLint.Unicode.Basic

/-!
# Directives in comments

A comment silences rules if it is the word `gqlstyle-ignore`, or `gqlstyle-ignore-file` for the whole
file, with blanks in front, and then either ends or goes on after a blank with the ids of rules. Ids
are separated by blanks and commas; without any, all rules are meant.
-/

namespace SchemaLint.Suppression

/-- The id that stands for all rules. -/
def wildcard : String := "*"

/-- A directive: whether it speaks of the whole file, and the rules it silences. -/
structure Directive where
  wholeFile : Bool
  rules : List String
  deriving DecidableEq, Repr

/-- Characters between ids. -/
def isSeparator (c : Char) : Bool := c == ',' || Unicode.isBlank c

/-- The ids of a text: its longest runs of characters other than separators. `pending` has been read
of the run that goes on. -/
def idsFrom (pending : List Char) : List Char → List String
  | [] => if pending.isEmpty then [] else [String.ofList pending]
  | c :: cs =>
    if isSeparator c then
      if pending.isEmpty then idsFrom [] cs else String.ofList pending :: idsFrom [] cs
    else idsFrom (pending ++ [c]) cs

/-- The ids of a text, or the wildcard if it has none. -/
def ruleIds (cs : List Char) : List String :=
  match idsFrom [] cs with
  | [] => [wildcard]
  | ids => ids

/-- What follows the word at the front. -/
def afterWord (word : String) (cs : List Char) : Option (List Char) :=
  let w := word.toList
  if w.isPrefixOf cs then some (cs.drop w.length) else none

/-- The ids behind the word of a directive, behind which there is nothing, or a blank and anything. -/
def idsAfterWord (cs : List Char) : Option (List String) :=
  match cs with
  | [] => some [wildcard]
  | c :: rest => if Unicode.isBlank c then some (ruleIds rest) else none

/-- The directive that a comment holds, if it holds one. -/
def Directive.ofComment? (comment : String) : Option Directive := do
  let rest ← afterWord "gqlstyle-ignore" (comment.toList.dropWhile Unicode.isBlank)
  match afterWord "-file" rest with
  | some rest => return ⟨true, ← idsAfterWord rest⟩
  | none => return ⟨false, ← idsAfterWord rest⟩

end SchemaLint.Suppression

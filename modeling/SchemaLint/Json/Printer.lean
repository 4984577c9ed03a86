import SchemaLint.Json.Basic
import SchemaLint.Number.Shortest

/-!
# Printing of JSON

Two layouts of a value: on one line, and indented by two spaces a level.
-/

namespace SchemaLint.Json

/-- The text of a value without parts. -/
def atom : Json → List Char
  | .null => "null".toList
  | .bool true => "true".toList
  | .bool false => "false".toList
  | .int n => (toString n).toList
  | .float x => x.text.toList
  | .str s => quote s
  | .arr _ => "[]".toList
  | .obj _ => ['\x7b', '\x7d']

mutual

/-- The value on one line. -/
def compactChars : Json → List Char
  | .arr [] => "[]".toList
  | .arr (x :: xs) => '[' :: compactChars x ++ compactElements xs ++ [']']
  | .obj [] => ['\x7b', '\x7d']
  | .obj ((k, x) :: ms) =>
    '\x7b' :: quote k ++ ':' :: ' ' :: compactChars x ++ compactMembers ms ++ ['\x7d']
  | x => atom x

/-- Further elements, each behind its separator. -/
def compactElements : List Json → List Char
  | [] => []
  | x :: xs => ',' :: ' ' :: compactChars x ++ compactElements xs

/-- Further members, each behind its separator. -/
def compactMembers : List (String × Json) → List Char
  | [] => []
  | (k, x) :: ms => ',' :: ' ' :: quote k ++ ':' :: ' ' :: compactChars x ++ compactMembers ms

end

/-- The start of a line `depth` levels in. -/
def newLine (depth : Nat) : List Char := '\n' :: List.replicate (2 * depth) ' '

mutual

/-- The value with its parts on lines of their own, `depth` levels in. -/
def indentedChars (depth : Nat) : Json → List Char
  | .arr [] => "[]".toList
  | .arr (x :: xs) =>
    '[' :: newLine (depth + 1) ++ indentedChars (depth + 1) x ++
      indentedElements (depth + 1) xs ++ newLine depth ++ [']']
  | .obj [] => ['\x7b', '\x7d']
  | .obj ((k, x) :: ms) =>
    '\x7b' :: newLine (depth + 1) ++ quote k ++ ':' :: ' ' :: indentedChars (depth + 1) x ++
      indentedMembers (depth + 1) ms ++ newLine depth ++ ['\x7d']
  | x => atom x

/-- Further elements, each on its line. -/
def indentedElements (depth : Nat) : List Json → List Char
  | [] => []
  | x :: xs => ',' :: newLine depth ++ indentedChars depth x ++ indentedElements depth xs

/-- Further members, each on its line. -/
def indentedMembers (depth : Nat) : List (String × Json) → List Char
  | [] => []
  | (k, x) :: ms =>
    ',' :: newLine depth ++ quote k ++ ':' :: ' ' :: indentedChars depth x ++
      indentedMembers depth ms

end

/-- The compact text of a value. -/
def compact (x : Json) : String := String.ofList (compactChars x)

/-- The indented text of a value. -/
def indented (x : Json) : String := String.ofList (indentedChars 0 x)

end SchemaLint.Json

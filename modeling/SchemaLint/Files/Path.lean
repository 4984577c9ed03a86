/-!
# Paths

A path leads to a file or a folder from the current folder or, if it starts with a slash, from the
root. Empty parts and single dots in it lead nowhere and are left out, so that `./a//b/` is the path
`a/b`. Two dots lead to the folder above.
-/

namespace SchemaLint

/-- A path: the slashes that it starts with, and its parts. -/
structure Path where
  root : String
  parts : List String
  deriving DecidableEq, Repr

namespace Path

/-- The pieces of a text between its slashes. -/
def pieces : List Char → List (List Char)
  | [] => [[]]
  | c :: cs =>
    if c = '/' then [] :: pieces cs
    else
      match pieces cs with
      | [] => [[c]]
      | piece :: rest => (c :: piece) :: rest

/-- The piece leads somewhere. -/
def isPart (piece : List Char) : Bool := piece ≠ [] && piece ≠ ['.']

/-- The slashes that a path starts with: none, two if there are exactly two, else one. -/
def rootOf (cs : List Char) : String :=
  match (cs.takeWhile (· = '/')).length with
  | 0 => ""
  | 2 => "//"
  | _ => "/"

/-- The path that a text describes. -/
def ofText (s : String) : Path :=
  ⟨rootOf s.toList, ((pieces s.toList).filter isPart).map String.ofList⟩

/-- The text of a path. -/
def text (p : Path) : String :=
  if p.root = "" ∧ p.parts = [] then "." else p.root ++ "/".intercalate p.parts

/-- The path leads from the root. -/
def isRooted (p : Path) : Bool := p.root ≠ ""

/-- The path to an entry of a folder. -/
def entry (p : Path) (name : String) : Path := ⟨p.root, p.parts ++ [name]⟩

/-- Where a path leads from a folder. -/
def within (p folder : Path) : Path :=
  if p.isRooted then p else ⟨folder.root, folder.parts ++ p.parts⟩

/-- The parts without two dots: these take back the part in front of them. -/
def plainParts (parts : List String) : List String :=
  parts.foldl (fun back part => if part = ".." then back.dropLast else back ++ [part]) []

/-- The path from the root and without two dots, for a path in a folder. -/
def resolve (p folder : Path) : Path :=
  let whole := p.within folder
  ⟨whole.root, plainParts whole.parts⟩

/-- The path to the folder that holds what the path leads to. -/
def parent (p : Path) : Path := ⟨p.root, p.parts.dropLast⟩

/-- The path holds a null character, which no name of a file does. -/
def hasNull (p : Path) : Bool := p.parts.any (·.toList.contains '\x00')

/-- The account whose home folder a path starts with by a tilde, if it does: the empty name stands for
the account of the user. -/
def homeOwner? (p : Path) : Option String :=
  if p.isRooted then none
  else
    match p.parts.map String.toList with
    | ('~' :: name) :: _ => some (String.ofList name)
    | _ => none

/-- The path with a home folder in place of its first part. It does not end in slashes and must not
start with a tilde again. -/
def inHome (p : Path) (home : String) : Option Path :=
  let home := (home.toList.reverse.dropWhile (· = '/')).reverse
  if home.head? = some '~' then none
  else
    let folder := if home.isEmpty then Path.mk "/" [] else ofText (String.ofList home)
    some ⟨folder.root, folder.parts ++ p.parts.drop 1⟩

end Path
end SchemaLint

import SchemaLint.Files.Fault
import SchemaLint.Files.Path

/-!
# Trees of files

All files and folders, by their places. A place is the list of the names that lead to it from the
root, which is always a folder; no name in it is empty or one of the dots.

A path leads somewhere step by step, and each step starts from a folder that is there. Neither a path
nor a name in it is longer than a limit.
-/

namespace SchemaLint

/-- What stands at a place. A sink is no file, is empty, and keeps nothing. -/
inductive FileEntry where
  | file (bytes : List UInt8)
  | folder
  | sink
  deriving DecidableEq, Repr

/-- A tree of files. -/
structure FileTree where
  entries : List (List String × FileEntry)
  deriving DecidableEq, Repr

namespace FileTree

/-- What stands at a place. -/
def get? (t : FileTree) (place : List String) : Option FileEntry :=
  if place = [] then some .folder else (t.entries.find? (·.1 == place)).map (·.2)

/-- The entries with something else at a place. -/
def putEntry (place : List String) (e : FileEntry) :
    List (List String × FileEntry) → List (List String × FileEntry)
  | [] => [(place, e)]
  | (other, old) :: rest =>
    if other = place then (place, e) :: rest else (other, old) :: putEntry place e rest

/-- The tree with something else at a place. -/
def put (t : FileTree) (place : List String) (e : FileEntry) : FileTree :=
  ⟨putEntry place e t.entries⟩

/-- The place that a part leads to. -/
def step (place : List String) (part : String) : List String :=
  if part = ".." then place.dropLast else place ++ [part]

/-- The most bytes of a name. -/
def nameLimit : Nat := 255

/-- The most bytes of a path. -/
def pathLimit : Nat := 4095

/-- The place that parts lead to. -/
def walk (t : FileTree) (place : List String) : List String → Except FileFault (List String)
  | [] => .ok place
  | part :: rest =>
    match t.get? place with
    | some .folder =>
      if nameLimit < part.utf8ByteSize then .error .nameTooLong else t.walk (step place part) rest
    | some _ => .error .notFolder
    | none => .error .notFound

/-- The place that a path leads to from a folder. -/
def find (t : FileTree) (here : List String) (p : Path) : Except FileFault (List String) :=
  if pathLimit < p.text.utf8ByteSize then .error .nameTooLong
  else t.walk (if p.isRooted then [] else here) p.parts

/-- What a path leads to. -/
def lookup (t : FileTree) (here : List String) (p : Path) : Except FileFault FileEntry := do
  match t.get? (← t.find here p) with
  | some e => return e
  | none => throw .notFound

/-- The bytes of a file. -/
def read (t : FileTree) (here : List String) (p : Path) : Except FileFault (List UInt8) := do
  match ← t.lookup here p with
  | .file bytes => return bytes
  | .folder => throw .isFolder
  | .sink => return []

/-- Makes a file without bytes, or takes all bytes from one. -/
def truncate (t : FileTree) (here : List String) (p : Path) : Except FileFault FileTree := do
  let place ← t.find here p
  match t.get? place with
  | some .folder => throw .isFolder
  | some .sink => return t
  | _ => return t.put place (.file [])

/-- Adds bytes to a file; there is nothing to add to anything else. -/
def append (t : FileTree) (here : List String) (p : Path) (bytes : List UInt8) : FileTree :=
  match t.find here p with
  | .error _ => t
  | .ok place =>
    match t.get? place with
    | some (.file old) => t.put place (.file (old ++ bytes))
    | _ => t

/-- Makes a folder. -/
def makeFolder (t : FileTree) (here : List String) (p : Path) : Except FileFault FileTree := do
  let place ← t.find here p
  match t.get? place with
  | some _ => throw .alreadyExists
  | none => return t.put place .folder

end FileTree
end SchemaLint

import SchemaLint.Text.Quoted

/-!
# Faults of files

Why a file or a folder cannot be read, written or made.
-/

namespace SchemaLint

/-- Trouble with the file system. Trouble of other kinds, such as missing permission, is known by its
number and reason. -/
inductive FileFault where
  | notFound | alreadyExists | isFolder | notFolder | nameTooLong
  | other (number : Nat) (reason : String)
  deriving DecidableEq, Repr

namespace FileFault

/-- The number of a fault. -/
def number : FileFault → Nat
  | notFound => 2
  | alreadyExists => 17
  | notFolder => 20
  | isFolder => 21
  | nameTooLong => 36
  | other number _ => number

/-- The reason that a fault gives. -/
def reason : FileFault → String
  | notFound => "No such file or directory"
  | alreadyExists => "File exists"
  | notFolder => "Not a directory"
  | isFolder => "Is a directory"
  | nameTooLong => "File name too long"
  | other _ reason => reason

/-- The fault means that there is nothing at a path: nothing on the way to it, a file on the way, or an
endless way. -/
def isAbsence (f : FileFault) : Bool := [2, 9, 20, 40].contains f.number

/-- The fault means that nobody is at the other end of a pipe any more. -/
def isBrokenPipe (f : FileFault) : Bool := [32, 108].contains f.number

/-- The wording of a fault where no path is known. -/
def plainMessage (f : FileFault) : String := s!"[Errno {f.number}] {f.reason}"

/-- The wording of a fault at a path. -/
def message (f : FileFault) (path : String) : String := s!"{f.plainMessage}: {Text.quoted path}"

end FileFault
end SchemaLint

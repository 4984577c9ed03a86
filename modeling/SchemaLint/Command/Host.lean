import SchemaLint.Files.Path
import SchemaLint.Resources

/-!
# Hosts

Everything that a command needs from the system it runs on. A host works in any monad, so that the
same commands run on a computer and on a description of one.
-/

namespace SchemaLint

/-- Where a command writes: its output, or what it tells its user besides. -/
inductive Stream where
  | out | err
  deriving DecidableEq, Repr

/-- What a path leads to. -/
inductive PathKind where
  | file | folder | other
  deriving DecidableEq, Repr

/-- A system that commands run on. Trouble may come over a command where it waits: for its input, for the
end of a computation, or for what it writes to be taken.

* `resources`: what the linter is built on;
* `here`: the current folder, if it is still there;
* `environment`: the value of a variable of the environment;
* `home`: the home folder of an account, of which the empty name is that of the user;
* `read`, `kind`: the bytes of a file, and what a path leads to;
* `makeFolder`: makes a folder;
* `truncate`, `append`: makes an empty file, and adds text to a file;
* `input`: the bytes that the command is given;
* `isTerminal`, `write`: the streams;
* `clock`, `timed`: the time of the day, and the value of a computation with the seconds it took. -/
structure Host (m : Type → Type) where
  resources : Resources
  here : m (Except FileFault Path)
  environment : String → m (Option String)
  home : String → m (Option String)
  read : Path → m (Except FileFault (List UInt8))
  kind : Path → m (Except FileFault PathKind)
  makeFolder : Path → m (Except FileFault Unit)
  truncate : Path → m (Except FileFault Unit)
  append : Path → String → m (Except Trouble Unit)
  input : m (Except Trouble (List UInt8))
  isTerminal : Stream → m Bool
  write : Stream → String → m (Except Trouble Unit)
  clock : m String
  timed : {α : Type} → (Unit → α) → m (Except Trouble (α × String))

end SchemaLint

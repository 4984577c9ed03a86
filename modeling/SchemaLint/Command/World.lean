import SchemaLint.Command.Host
import SchemaLint.Files.Tree

/-!
# Worlds

A world is a description of a system: its files, the environment, the input, what has been written so
far, and what is going to go wrong. It is a host whose commands do nothing but change the description.
Its streams are no terminals, and its clocks stand still.
-/

namespace SchemaLint

/-- What comes in between when a command waits: how much is written nevertheless, if it is for that that
the command waits, and the trouble. -/
structure Mishap where
  done : Nat
  trouble : Trouble
  deriving DecidableEq, Repr

/-- The description of a system. Accounts have names and home folders, and that of the user comes first.
There is an entry among the mishaps for each time that a command is going to wait, in order, and behind
the last of them nothing goes wrong. -/
structure World where
  here : List String
  tree : FileTree
  accounts : List (String × String)
  environment : List (String × String)
  input : List UInt8
  mishaps : List (Option Mishap)
  out : String
  err : String

namespace World

/-- A world in which nothing has been written, and nothing goes wrong. -/
def initial (here : List String) (tree : FileTree) (accounts environment : List (String × String))
    (input : List UInt8) : World :=
  ⟨here, tree, accounts, environment, input, [], "", ""⟩

/-- The value of a variable. -/
def valueOf? (w : World) (name : String) : Option String :=
  (w.environment.find? (·.1 == name)).map (·.2)

/-- The home folder of an account. -/
def homeOf? (w : World) (name : String) : Option String :=
  if name = "" then w.accounts.head?.map (·.2) else w.accounts.lookup name

/-- The path to the current folder. -/
def folder (w : World) : Path := ⟨"/", w.here⟩

/-- The path to the current folder, if it is still there. -/
def findFolder (w : World) : Except FileFault Path :=
  if w.tree.get? w.here = some .folder then .ok w.folder else .error .notFound

/-- What a path leads to. -/
def kindOf (w : World) (p : Path) : Except FileFault PathKind :=
  (w.tree.lookup w.here p).map fun
    | .file _ => .file
    | .folder => .folder
    | .sink => .other

/-- The world after a change of its files that may fail, and whether it did. -/
def change (w : World) (tree : Except FileFault FileTree) : Except FileFault Unit × World :=
  match tree with
  | .ok tree => (.ok (), { w with tree })
  | .error fault => (.error fault, w)

/-- The world after a command has waited. What it waited for is `done`, or as much of it as a mishap
allows. -/
def await {α : Type} (w : World) (result : α) (done : World → Option Nat → World) :
    Except Trouble α × World :=
  let after := { w with mishaps := w.mishaps.tail }
  match w.mishaps.head?.join with
  | none => (.ok result, done after none)
  | some mishap => (.error mishap.trouble, done after (some mishap.done))

/-- The first items of a list, or all of them. -/
def upTo {α : Type} (limit : Option Nat) (xs : List α) : List α :=
  match limit with
  | some n => xs.take n
  | none => xs

/-- The world after text has been written to a stream, up to a limit if there is one. -/
def write (w : World) (s : Stream) (text : String) (limit : Option Nat) : World :=
  let text := String.ofList (upTo limit text.toList)
  match s with
  | .out => { w with out := w.out ++ text }
  | .err => { w with err := w.err ++ text }

/-- The world after text has been added to a file, up to a limit if there is one. -/
def append (w : World) (p : Path) (text : String) (limit : Option Nat) : World :=
  { w with tree := w.tree.append w.here p (upTo limit text.toUTF8.toList) }

/-- A world as a host, with some resources. -/
def hostOn (resources : Resources) : Host (StateM World) where
  resources
  here := fun w => (w.findFolder, w)
  environment := fun name w => (w.valueOf? name, w)
  home := fun name w => (w.homeOf? name, w)
  read := fun p w => (w.tree.read w.here p, w)
  kind := fun p w => (w.kindOf p, w)
  makeFolder := fun p w => w.change (w.tree.makeFolder w.here p)
  truncate := fun p w => w.change (w.tree.truncate w.here p)
  append := fun p text w => w.await () fun after limit => after.append p text limit
  input := fun w => w.await w.input fun after _ => after
  isTerminal := fun _ w => (false, w)
  write := fun s text w => w.await () fun after limit => after.write s text limit
  clock := fun w => ("<time>", w)
  timed := fun f w => w.await (f (), "<t>") fun after _ => after

/-- A world as a host, with the resources for texts that usually occur. -/
def host : Host (StateM World) := hostOn .standard

end World
end SchemaLint

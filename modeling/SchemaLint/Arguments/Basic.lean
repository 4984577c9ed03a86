import SchemaLint.Text.Quoted

/-!
# Interfaces of commands

What a command can be told on its command line: flags, some of which take a value, and operands. A
command may have commands of its own, whose name and arguments are its operands.
-/

namespace SchemaLint.Arguments

/-- How reading of arguments ends early: the exit code, and what is put out and told. -/
structure Stop where
  exit : Nat
  out : String
  err : String
  deriving DecidableEq, Repr

/-- The end of a program that was used in a wrong way. -/
def Stop.misuse (program usage message : String) : Stop :=
  ⟨2, "", usage ++ s!"{program}: error: {message}\n"⟩

/-- The end of a program that tells what it was asked for. -/
def Stop.answer (text : String) : Stop := ⟨0, text, ""⟩

/-- What a flag does to the settings of type `σ`. A value may be refused with a reason. -/
inductive Effect (σ : Type) where
  | set (change : σ → σ)
  | value (change : String → σ → Except String σ)
  | stop (s : Stop)

/-- A flag with its names, short ones behind one dash and long ones behind two. -/
structure Flag (σ : Type) where
  names : List String
  effect : Effect σ

/-- The flag takes a value. -/
def Flag.takesValue {σ : Type} (f : Flag σ) : Bool :=
  match f.effect with
  | .value _ => true
  | _ => false

/-- The operands of a command: none, one that has to be given, or a command with its arguments, of
which those that it does not know are given back. -/
inductive Operands (σ : Type) where
  | none
  | one (name : String) (change : String → σ → σ)
  | command (take : String → List String → σ → Except Stop (σ × List String))

/-- The refusal of a word that is none of some. -/
def notAmong (word : String) (words : List String) : String :=
  let list := ", ".intercalate (words.map Text.quoted)
  s!"invalid choice: {Text.quoted word} (choose from {list})"

/-- The effect of a flag whose value is one of some words, each of which stands for something. -/
def Effect.ofWords {σ α : Type} (words : List (String × α)) (change : α → σ → σ) : Effect σ :=
  .value fun word s =>
    match words.find? (·.1 == word) with
    | some found => .ok (change found.2 s)
    | none => .error (notAmong word (words.map (·.1)))

/-- The effect of a flag with any value. -/
def Effect.ofText {σ : Type} (change : String → σ → σ) : Effect σ :=
  .value fun word s => .ok (change word s)

/-- What a command can be told. -/
structure Interface (σ : Type) where
  program : String
  usage : String
  flags : List (Flag σ)
  operands : Operands σ

namespace Interface
variable {σ : Type}

/-- The end with an error. -/
def fail (i : Interface σ) (message : String) : Stop := .misuse i.program i.usage message

/-- The end with an error that is about a flag. -/
def failAt (i : Interface σ) (f : Flag σ) (message : String) : Stop :=
  let names := "/".intercalate f.names
  i.fail s!"argument {names}: {message}"

/-- The flag of a name. -/
def flag? (i : Interface σ) (name : String) : Option (Flag σ) :=
  i.flags.find? (·.names.contains name)

/-- All names of flags with their flags, in order. -/
def names (i : Interface σ) : List (String × Flag σ) :=
  i.flags.flatMap fun f => f.names.map (·, f)

end Interface
end SchemaLint.Arguments

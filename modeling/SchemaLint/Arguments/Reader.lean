import SchemaLint.Arguments.Basic
import SchemaLint.Text.Quoted
import SchemaLint.Unicode.Digit

/-!
# Reading of arguments

Every argument is a flag, an operand, or the two dashes behind which there are operands only. Long
flags may be shortened as long as no other starts with the same letters. Short flags without values
may be written together. A value stands behind an equals sign, directly behind a short flag, or in the
next argument.

All flags are recognized before any takes effect.
-/

namespace SchemaLint.Arguments

variable {σ : Type}

/-- A recognized flag: the name it was given by, and the text that is attached to it. -/
structure Found (σ : Type) where
  flag : Flag σ
  name : String
  attached : Option String

/-- What an argument is. A flag may be one that the command does not have. -/
inductive Role (σ : Type) where
  | operand
  | dashes
  | flag (found : Option (Found σ))

/-- An argument and what it is. -/
abbrev Item (σ : Type) := String × Role σ

/-- The item is a flag. -/
def isFlag (item : Item σ) : Bool :=
  match item.2 with
  | .flag _ => true
  | _ => false

/-- The parts of a text in front of and behind its first equals sign. -/
def splitEquals (s : String) : String × Option String :=
  let cs := s.toList
  (String.ofList (cs.takeWhile (· ≠ '=')),
    match cs.dropWhile (· ≠ '=') with
    | [] => none
    | _ :: rest => some (String.ofList rest))

/-- The characters are decimal digits and at most a line end behind them. -/
def isDigitLine : List Char → Bool
  | [] => false
  | c :: rest => Unicode.isDecimal c && (rest.isEmpty || rest = ['\n'] || isDigitLine rest)

/-- The text is a dash and a decimal number, and at most a line end behind them. -/
def isNegativeNumber (cs : List Char) : Bool :=
  match cs with
  | '-' :: digits =>
    isDigitLine digits ||
      match digits.dropWhile Unicode.isDecimal with
      | '.' :: places => isDigitLine places
      | _ => false
  | _ => false

namespace Interface

/-- What a shortened or attached flag may be. -/
def candidates (i : Interface σ) (argument : String) : List (Found σ) :=
  match argument.toList with
  | '-' :: '-' :: _ =>
    let (start, attached) := splitEquals argument
    (i.names.filter fun n => start.toList.isPrefixOf n.1.toList).map fun n =>
      ⟨n.2, n.1, attached⟩
  | '-' :: c :: rest =>
    let short := String.ofList ['-', c]
    (i.names.filter (·.1 == short)).map fun n => ⟨n.2, n.1, some (String.ofList rest)⟩
  | _ => []

/-- What an argument in front of the two dashes is. -/
def role (i : Interface σ) (argument : String) : Except Stop (Role σ) :=
  match argument.toList with
  | '-' :: _ :: _ =>
    match i.flag? argument with
    | some f => .ok (.flag (some ⟨f, argument, none⟩))
    | none =>
      let (start, value) := splitEquals argument
      match value, i.flag? start with
      | some v, some f => .ok (.flag (some ⟨f, start, some v⟩))
      | _, _ =>
        match i.candidates argument with
        | [found] => .ok (.flag (some found))
        | [] =>
          if isNegativeNumber argument.toList || argument.toList.contains ' ' then .ok .operand
          else .ok (.flag none)
        | several =>
          let names := ", ".intercalate (several.map (·.name))
          .error (i.fail s!"ambiguous option: {argument} could match {names}")
  | _ => .ok .operand

/-- What all arguments are. -/
def roles (i : Interface σ) : List String → Except Stop (List (Item σ))
  | [] => .ok []
  | argument :: rest =>
    if argument = "--" then .ok ((argument, .dashes) :: rest.map (·, .operand))
    else do
      let role ← i.role argument
      return (argument, role) :: (← i.roles rest)

/-- What is to be done for an argument: flags with their values, and the arguments behind. -/
structure Plan (σ : Type) where
  flags : List (Flag σ × Option String)
  rest : List (Item σ)

/-- What the text that is attached to a flag without a value goes on with: behind a short flag another
short flag with what is attached to that. -/
def further (i : Interface σ) (name : String) (text : List Char) : Option (Found σ) :=
  match name.toList, text with
  | ['-', _], c :: more =>
    let name := String.ofList ['-', c]
    (i.flag? name).map fun f => ⟨f, name, if more.isEmpty then none else some (String.ofList more)⟩
  | _, _ => none

/-- The plan for a flag and those written together with it, of which there are at most `fuel`. -/
def plan (i : Interface σ) (rest : List (Item σ)) : Nat → Found σ → Except Stop (Plan σ)
  | 0, f => .error (i.failAt f.flag "expected no argument")
  | fuel + 1, f =>
    match f.flag.takesValue, f.attached with
    | true, some value => .ok ⟨[(f.flag, some value)], rest⟩
    | true, none =>
      match rest with
      | (value, .operand) :: rest => .ok ⟨[(f.flag, some value)], rest⟩
      | _ => .error (i.failAt f.flag "expected one argument")
    | false, none => .ok ⟨[(f.flag, none)], rest⟩
    | false, some text =>
      match i.further f.name text.toList with
      | none => .error (i.failAt f.flag s!"ignored explicit argument {Text.quoted text}")
      | some next => do
        let p ← i.plan rest fuel next
        return { p with flags := (f.flag, none) :: p.flags }

/-- The settings after a flag has taken effect. -/
def take (i : Interface σ) (s : σ) (f : Flag σ × Option String) : Except Stop σ :=
  match f.1.effect, f.2 with
  | .set change, _ => .ok (change s)
  | .stop stop, _ => .error stop
  | .value change, value => (change (value.getD "") s).mapError (i.failAt f.1)

/-- The settings after operands at the front have been taken, whether there were any, and the arguments
that are left. -/
def takeOperands (i : Interface σ) (s : σ) (items : List (Item σ)) :
    Except Stop (σ × Bool × List (Item σ) × List String) :=
  match i.operands, items with
  | .one _ change, (_, .dashes) :: (value, .operand) :: rest
  | .one _ change, (value, .operand) :: (_, .dashes) :: rest
  | .one _ change, (value, .operand) :: rest => .ok (change value s, true, rest, [])
  | .command take, (name, .operand) :: rest
  | .command take, (name, .dashes) :: rest =>
    if items.all (fun item => item.2 matches .dashes) then .ok (s, false, items, [])
    else do
      let (s, unknown) ← take name (rest.map (·.1)) s
      return (s, true, [], unknown)
  | _, _ => .ok (s, false, items, [])

/-- The state of reading: the settings, whether the operands have been taken, the arguments that are
not known, and those that the command among the operands does not know. -/
structure Progress (σ : Type) where
  settings : σ
  complete : Bool
  unknown : List String
  passed : List String

/-- Takes operands unless this has been done. -/
def Progress.takeOperands (i : Interface σ) (p : Progress σ) (items : List (Item σ)) :
    Except Stop (Progress σ × List (Item σ)) :=
  if p.complete then .ok (p, items)
  else do
    let (s, complete, rest, passed) ← i.takeOperands p.settings items
    return ({ p with settings := s, complete, passed := p.passed ++ passed }, rest)

/-- Takes a flag. -/
def Progress.takeFlag (i : Interface σ) (p : Progress σ) (argument : String)
    (found : Option (Found σ)) (rest : List (Item σ)) :
    Except Stop (Progress σ × List (Item σ)) :=
  match found with
  | none => .ok ({ p with unknown := p.unknown ++ [argument] }, rest)
  | some f => do
    let plan ← i.plan rest argument.length f
    let settings ← plan.flags.foldlM i.take p.settings
    return ({ p with settings }, plan.rest)

/-- Reads arguments, at most `fuel`. Operands are taken as soon as they are complete. -/
def readItems (i : Interface σ) : Nat → Progress σ → List (Item σ) → Except Stop (Progress σ)
  | 0, p, _ => .ok p
  | fuel + 1, p, items => do
    if !items.any isFlag then
      let (p, rest) ← p.takeOperands i items
      return { p with unknown := p.unknown ++ rest.map (·.1) }
    else
      match items with
      | [] => return p
      | (argument, .flag found) :: rest =>
        let (p, rest) ← p.takeFlag i argument found rest
        i.readItems fuel p rest
      | item :: more =>
        let (p, rest) ← p.takeOperands i items
        if rest.length < items.length then i.readItems fuel p rest
        else i.readItems fuel { p with unknown := p.unknown ++ [item.1] } more

/-- The settings that arguments describe, and the arguments that are not known. -/
def readKnown (i : Interface σ) (settings : σ) (arguments : List String) :
    Except Stop (σ × List String) := do
  let items ← i.roles arguments
  let p ← i.readItems (items.length + 1) ⟨settings, false, [], []⟩ items
  match i.operands, p.complete with
  | .one name _, false => throw (i.fail s!"the following arguments are required: {name}")
  | _, _ => return (p.settings, p.unknown ++ p.passed)

/-- The settings that arguments describe. -/
def read (i : Interface σ) (settings : σ) (arguments : List String) : Except Stop σ := do
  match ← i.readKnown settings arguments with
  | (s, []) => return s
  | (_, unknown) =>
    let list := " ".intercalate unknown
    throw (i.fail s!"unrecognized arguments: {list}")

end Interface
end SchemaLint.Arguments

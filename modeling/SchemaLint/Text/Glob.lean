/-!
# Glob patterns

A pattern is matched against a whole text, letter case included. `*` stands for any text, `?` for any
character, `[…]` for one of a set of characters and `[!…]` for one outside it. A set lists characters
and ranges; `]` is a member when it comes first; a `[` that no `]` closes stands for itself. A range
whose ends are in the wrong order is no member of its set and is dropped before the set is read.
-/

namespace SchemaLint.Text.Glob

/-- A set of characters: single members and ranges. -/
structure CharSet where
  negated : Bool
  members : List (Char × Char)

/-- One step of a pattern. -/
inductive Step where
  | any
  | anyText
  | literal (c : Char)
  | oneOf (set : CharSet)

/-- The members of a set, each a range; a single character is a range of one. A hyphen joins the
character before it to the one after it. -/
def ranges : List Char → List (Char × Char)
  | a :: '-' :: b :: rest => (a, b) :: ranges rest
  | a :: rest => (a, a) :: ranges rest
  | [] => []

/-- The set that is written between brackets. An exclamation mark in front negates it. Where dropped
ranges bring one to the front, it negates the set too, and a range from it leaves the hyphen and its
end as members. -/
def CharSet.ofBody (body : List Char) : CharSet :=
  let sound := (ranges body).filter fun r => r.1 ≤ r.2
  match body, sound with
  | '!' :: rest, _ => ⟨true, (ranges rest).filter fun r => r.1 ≤ r.2⟩
  | _, ('!', b) :: more => ⟨true, if b = '!' then more else ('-', '-') :: (b, b) :: more⟩
  | _, _ => ⟨false, sound⟩

/-- Membership in a set. -/
def CharSet.contains (set : CharSet) (c : Char) : Bool :=
  set.members.any (fun r => r.1 ≤ c && c ≤ r.2) != set.negated

/-- The body of a set that has been opened, and what follows its closing bracket. -/
def closeSet (cs : List Char) : Option (List Char × List Char) :=
  let (start, tail) :=
    match cs with
    | '!' :: ']' :: rest => (['!', ']'], rest)
    | '!' :: rest => (['!'], rest)
    | ']' :: rest => ([']'], rest)
    | _ => ([], cs)
  match tail.dropWhile (· ≠ ']') with
  | [] => none
  | _ :: after => some (start ++ tail.takeWhile (· ≠ ']'), after)

/-- The steps of a pattern of at most `fuel` characters. -/
def stepsWithin : Nat → List Char → List Step
  | _, [] => []
  | 0, _ :: _ => []
  | fuel + 1, c :: cs =>
    match c with
    | '*' => .anyText :: stepsWithin fuel cs
    | '?' => .any :: stepsWithin fuel cs
    | '[' =>
      match closeSet cs with
      | some (body, after) => .oneOf (.ofBody body) :: stepsWithin fuel after
      | none => .literal '[' :: stepsWithin fuel cs
    | c => .literal c :: stepsWithin fuel cs

/-- The steps of a pattern. -/
def steps (pattern : List Char) : List Step :=
  stepsWithin pattern.length pattern

/-- The character is one that a step other than that of any text stands for. -/
def Step.accepts (c : Char) : Step → Bool
  | .any | .anyText => true
  | .literal d => c == d
  | .oneOf set => set.contains c

/-- For the steps, and for what is left of them behind each one, whether they match the empty text. -/
def matchEmpty : List Step → List Bool
  | [] => [true]
  | .anyText :: rest =>
    let behind := matchEmpty rest
    behind.headD false :: behind
  | _ :: rest => false :: matchEmpty rest

/-- For the steps, and for what is left of them behind each one, whether they match a text that starts
with `c`; `tail` tells the same of the text behind `c`. -/
def matchBehind (c : Char) : List Step → List Bool → List Bool
  | [], _ => [false]
  | step :: rest, tail =>
    let behind := matchBehind c rest tail.tail
    let isMatch :=
      match step with
      | .anyText => behind.headD false || tail.headD false
      | step => step.accepts c && tail.tail.headD false
    isMatch :: behind

/-- The steps match the whole text. -/
def matchSteps (steps : List Step) (cs : List Char) : Bool :=
  (cs.foldr (fun c tail => matchBehind c steps tail) (matchEmpty steps)).headD false

/-- The pattern matches the whole text. -/
def isMatch (pattern text : String) : Bool :=
  matchSteps (steps pattern.toList) text.toList

end SchemaLint.Text.Glob

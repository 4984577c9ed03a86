import SchemaLint.Yaml.Lexer

/-!
# Nodes of YAML documents

The tokens of a document make scalars, sequences and mappings. An anchor names a node, and an alias
stands for the node of an anchor in front of it. A collection has its anchor from its start on, so that
it may hold itself. For this reason the nodes of a document are numbered, and collections hold numbers.

A node that is left out is an empty plain scalar.
-/

namespace SchemaLint.Yaml

/-- What a node is. Collections hold the numbers of nodes. -/
inductive Content where
  | scalar (text : String) (plain : Bool)
  | sequence (items : List Nat)
  | mapping (entries : List (Nat × Nat))

/-- A node of a document and its place. -/
structure Node where
  mark : Mark
  content : Content

/-- The nodes of a document, by their numbers, and the number of the node that holds all others. -/
structure Graph where
  nodes : Array Node
  root : Nat

/-- How deep collections may lie in each other before there is no room for more calls of the reader. -/
def maxDepth : Nat := 490

/-- Tokens that are being read, the fault behind them, the nodes so far, the numbers that anchors have
named, and the number of open collections. -/
structure Composer where
  tokens : List Token
  fault : Option Fault
  nodes : Array Node
  anchors : List (String × Nat)
  depth : Nat

/-- What reading of tokens gives. -/
abbrev Compose (α : Type) := Composer → Except Fault (α × Composer)

namespace Compose

/-- The next token. -/
def peek (s : Composer) : Except Fault Token :=
  match s.tokens, s.fault with
  | t :: _, _ => .ok t
  | [], some f => .error f
  | [], none => .ok ⟨.streamEnd, ⟨0, 0⟩⟩

/-- The state behind the next token. -/
def drop (s : Composer) : Composer := { s with tokens := s.tokens.tail }

/-- The next token is one of some lexemes. -/
def isNext (s : Composer) (lexemes : List Lexeme) : Except Fault Bool :=
  (peek s).map fun t => lexemes.contains t.lexeme

/-- A name that an anchor gives, and the place of the anchor. -/
abbrev Anchor := String × Mark

/-- A name may be given once only. -/
def checkAnchor (a : Anchor) (s : Composer) : Except Fault Unit :=
  if (s.anchors.lookup a.1).isSome then .error ⟨.repeatedAnchor, some a.2⟩ else .ok ()

/-- A further node, of which the number is given. -/
def add (anchor : Option Anchor) (mark : Mark) (content : Content) (s : Composer) :
    Nat × Composer :=
  let number := s.nodes.size
  let anchors :=
    match anchor with
    | some (name, _) => (name, number) :: s.anchors
    | none => s.anchors
  (number, { s with nodes := s.nodes.push ⟨mark, content⟩, anchors })

/-- The node that is left out at a place. -/
def absent (anchor : Option Anchor) (mark : Mark) (s : Composer) : Nat × Composer :=
  add anchor mark (.scalar "" true) s

/-- A collection, which has its number and its anchor before its content is read. -/
def collection (anchor : Option Anchor) (mark : Mark) (content : Compose Content) : Compose Nat :=
  fun s => do
    if maxDepth ≤ s.depth then throw ⟨.tooDeep, some mark⟩
    let (number, inner) := add anchor mark (.sequence []) s
    let (content, after) ← content { inner with depth := s.depth + 1 }
    let nodes := after.nodes.setIfInBounds number ⟨mark, content⟩
    return (number, { after with nodes, depth := s.depth })

/-- What may stand in place of a node: nothing but flow collections between brackets, blocks outside,
and after a key also a sequence that is not indented. -/
inductive Place where
  | flow | block | afterKey
  deriving DecidableEq, Repr

/-- The node, unless one of some lexemes shows that it is left out. The node that is left out has the
place `mark`. -/
def unlessNext (lexemes : List Lexeme) (mark : Mark) (node : Compose Nat) : Compose Nat :=
  fun s => do if ← isNext s lexemes then return absent none mark s else node s

/-- The value behind a colon, if there is one. -/
def valueUnless (lexemes : List Lexeme) (node : Compose Nat) : Compose Nat := fun s => do
  let t ← peek s
  if t.lexeme = .value then unlessNext lexemes t.mark node (drop s)
  else return absent none t.mark s

/-- An entry of a mapping: its key and its value. -/
def entry (key value : Compose Nat) : Compose (Nat × Nat) := fun s => do
  let (k, s) ← key s
  let (v, s) ← value s
  return ((k, v), s)

mutual

/-- A node. All readers of nodes take fewer than `fuel` steps into each other. -/
def node (place : Place) : Nat → Compose Nat
  | 0, s => do throw ((← peek s).fault .contentExpected)
  | fuel + 1, s => do
    let t ← peek s
    match t.lexeme with
    | .reference name =>
      match s.anchors.lookup name with
      | some n => return (n, drop s)
      | none => throw ⟨.undefinedAlias name, some t.mark⟩
    | .anchor name => do
      let s := drop s
      let next ← peek s
      checkAnchor (name, t.mark) s
      content place (some (name, t.mark)) next fuel s
    | _ => content place none t fuel s

/-- The content of a node, which starts with the token `t`, behind an anchor if one is given. -/
def content (place : Place) (anchor : Option Anchor) (t : Token) : Nat → Compose Nat
  | 0, _ => .error (t.fault .contentExpected)
  | fuel + 1, s =>
    let mark := (anchor.map (·.2)).getD t.mark
    match t.lexeme with
    | .scalar text plain => .ok (add anchor mark (.scalar text plain) (drop s))
    | .openSequence => collection anchor mark (flowItems true [] fuel) (drop s)
    | .openMapping => collection anchor mark (flowEntries true [] fuel) (drop s)
    | .blockSequence =>
      if place = .flow then absentOr anchor t s
      else collection anchor mark (blockItems [] fuel) (drop s)
    | .blockMapping =>
      if place = .flow then absentOr anchor t s
      else collection anchor mark (blockEntries [] fuel) (drop s)
    | .entry =>
      if place = .afterKey then collection anchor mark (plainItems [] fuel) s
      else absentOr anchor t s
    | _ => absentOr anchor t s

/-- A token that starts no content: behind an anchor the node is left out. -/
def absentOr (anchor : Option Anchor) (t : Token) : Compose Nat := fun s =>
  match anchor with
  | some (_, mark) => .ok (absent anchor mark s)
  | none => .error (t.fault .contentExpected)

/-- The items of an indented sequence, behind those in `items`. -/
def blockItems (items : List Nat) : Nat → Compose Content
  | 0, s => .ok (.sequence items, s)
  | fuel + 1, s => do
    let t ← peek s
    match t.lexeme with
    | .entry =>
      let (n, s) ← unlessNext [.entry, .blockEnd] t.mark (node .block fuel) (drop s)
      blockItems (items ++ [n]) fuel s
    | .blockEnd => return (.sequence items, drop s)
    | _ => throw (t.fault .blockEndExpected)

/-- The items of a sequence that is not indented, behind those in `items`. -/
def plainItems (items : List Nat) : Nat → Compose Content
  | 0, s => .ok (.sequence items, s)
  | fuel + 1, s => do
    let t ← peek s
    match t.lexeme with
    | .entry =>
      let (n, s) ←
        unlessNext [.entry, .key, .value, .blockEnd] t.mark (node .block fuel) (drop s)
      plainItems (items ++ [n]) fuel s
    | _ => return (.sequence items, s)

/-- The entries of an indented mapping, behind those in `entries`. -/
def blockEntries (entries : List (Nat × Nat)) : Nat → Compose Content
  | 0, s => .ok (.mapping entries, s)
  | fuel + 1, s => do
    let t ← peek s
    let ends : List Lexeme := [.key, .value, .blockEnd]
    match t.lexeme with
    | .key =>
      let (e, s) ← entry (unlessNext ends t.mark (node .afterKey fuel))
        (valueUnless ends (node .afterKey fuel)) (drop s)
      blockEntries (entries ++ [e]) fuel s
    | .blockEnd => return (.mapping entries, drop s)
    | _ => throw (t.fault .blockEndExpected)

/-- The items of a sequence between brackets, behind those in `items`. Items behind the first are
behind a comma. An item may be a mapping with a single entry and without braces. -/
def flowItems (isFirst : Bool) (items : List Nat) : Nat → Compose Content
  | 0, s => .ok (.sequence items, s)
  | fuel + 1, s => do
    let t ← peek s
    if t.lexeme = .closeSequence then return (.sequence items, drop s)
    else if !isFirst && t.lexeme != .comma then throw (t.fault (.closingExpected "]"))
    else
      let s := if isFirst then s else drop s
      let t ← peek s
      match t.lexeme with
      | .closeSequence => return (.sequence items, drop s)
      | .key =>
        let single : Compose Content := fun s => do
          let (e, s) ←
            entry (unlessNext [.value, .comma, .closeSequence] t.mark (node .flow fuel))
              (valueUnless [.comma, .closeSequence] (node .flow fuel)) s
          return (.mapping [e], s)
        let (n, s) ← collection none t.mark single (drop s)
        flowItems false (items ++ [n]) fuel s
      | _ =>
        let (n, s) ← node .flow fuel s
        flowItems false (items ++ [n]) fuel s

/-- The entries of a mapping between braces, behind those in `entries`. Entries behind the first are
behind a comma. -/
def flowEntries (isFirst : Bool) (entries : List (Nat × Nat)) : Nat → Compose Content
  | 0, s => .ok (.mapping entries, s)
  | fuel + 1, s => do
    let t ← peek s
    if t.lexeme = .closeMapping then return (.mapping entries, drop s)
    else if !isFirst && t.lexeme != .comma then throw (t.fault (.closingExpected "\x7d"))
    else
      let s := if isFirst then s else drop s
      let t ← peek s
      match t.lexeme with
      | .closeMapping => return (.mapping entries, drop s)
      | .key =>
        let (e, s) ← entry (unlessNext [.value, .comma, .closeMapping] t.mark (node .flow fuel))
          (valueUnless [.comma, .closeMapping] (node .flow fuel)) (drop s)
        flowEntries false (entries ++ [e]) fuel s
      | _ =>
        let missing : Compose Nat := fun s => do return absent none (← peek s).mark s
        let (e, s) ← entry (node .flow fuel) missing s
        flowEntries false (entries ++ [e]) fuel s

end

/-- The state behind the ends of documents. -/
def dropEnds : Nat → Composer → Except Fault Composer
  | 0, s => .ok s
  | fuel + 1, s => do
    if ← isNext s [.documentEnd] then dropEnds fuel (drop s) else return s

/-- The state at the end of the text or, behind its mark, at a document. There may be ends of documents
in front. -/
def documentStart (s : Composer) : Except Fault (Option Mark × Composer) := do
  let s ← dropEnds s.tokens.length s
  let t ← peek s
  match t.lexeme with
  | .streamEnd => return (none, s)
  | .documentStart => return (some t.mark, drop s)
  | _ => throw (t.fault .documentStartExpected)

/-- The nodes of a text with one document at most. The mark at the start of a first document may be
left out. -/
def document (s : Composer) : Except Fault (Option Graph) := do
  let fuel := 4 * s.tokens.length + 8
  let finish (root : Nat) (s : Composer) : Except Fault (Option Graph) := do
    let s ← dropEnds 1 s
    match ← documentStart s with
    | (none, _) => return some ⟨s.nodes, root⟩
    | (some mark, _) => throw ⟨.secondDocument, some mark⟩
  if ← isNext s [.documentStart, .streamEnd] then
    match ← documentStart s with
    | (none, _) => return none
    | (some _, s) =>
      let t ← peek s
      let (n, s) ←
        unlessNext [.documentStart, .documentEnd, .streamEnd] t.mark (node .block fuel) s
      finish n s
  else
    let (n, s) ← node .block fuel s
    finish n s

end Compose

/-- The nodes of a text, if there is a document in it. -/
def Graph.ofText (text : List Char) : Except Fault (Option Graph) :=
  let (tokens, fault) := lex text
  Compose.document ⟨tokens, fault, #[], [], 0⟩

end SchemaLint.Yaml

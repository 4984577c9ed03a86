import SchemaLint.Yaml.Node
import SchemaLint.Yaml.Plain

/-!
# Faults among the nodes of YAML documents

A plain scalar may stand for no value, and a collection may not be a key. Of several such faults the
first counts, where nodes are met level by level: those in a collection one after the other, and then
what is in the collections among them, in the order in which these were met. Every node is met once,
however many aliases stand for it.

An equals sign or two less-than signs that are a key stand for themselves, and do so for all who meet
them later.
-/

namespace SchemaLint.Yaml

/-- The node is a collection. -/
def Content.isCollection : Content → Bool
  | .scalar .. => false
  | _ => true

/-- The node of a number. -/
def Graph.node (g : Graph) (n : Nat) : Node := (g.nodes[n]?).getD ⟨⟨0, 0⟩, .scalar "" true⟩

/-- What has been met: a mark for each node, and the collections that are still to be looked into. -/
structure Survey where
  met : Array Bool
  open_ : List Nat

namespace Survey

/-- The survey in which no node has been met. -/
def start (g : Graph) : Survey := ⟨Array.replicate g.nodes.size false, []⟩

/-- A node has been met. -/
def isMet (s : Survey) (n : Nat) : Bool := (s.met[n]?).getD true

/-- The survey in which a node has been met. -/
def mark (s : Survey) (n : Nat) : Survey := { s with met := s.met.setIfInBounds n true }

/-- Meets a node. -/
def meet (g : Graph) (s : Survey) (n : Nat) : Except Fault Survey :=
  if s.isMet n then .ok s
  else
    let node := g.node n
    match node.content with
    | .scalar text true =>
      match Plain.value text with
      | .ok _ => .ok (s.mark n)
      | .error cause => .error ⟨cause, some node.mark⟩
    | .scalar _ false => .ok (s.mark n)
    | _ => .ok { s.mark n with open_ := s.open_ ++ [n] }

/-- Takes a key for met that stands for itself. -/
def markSign (g : Graph) (s : Survey) (key : Nat) : Survey :=
  match (g.node key).content with
  | .scalar "=" _ | .scalar "<<" _ => s.mark key
  | _ => s

/-- Meets the key and the value of an entry. -/
def meetEntry (g : Graph) (s : Survey) (e : Nat × Nat) : Except Fault Survey := do
  let s ← s.meet g e.1
  let key := g.node e.1
  if key.content.isCollection then throw ⟨.collectionAsKey, some key.mark⟩
  s.meet g e.2

/-- Meets what is in a collection. -/
def lookInto (g : Graph) (s : Survey) (n : Nat) : Except Fault Survey :=
  match (g.node n).content with
  | .scalar .. => .ok s
  | .sequence items => items.foldlM (meet g) s
  | .mapping entries =>
    entries.foldlM (meetEntry g) ((entries.map (·.1)).foldl (markSign g) s)

/-- Looks into the collections that have been met and into those that are met then, at most `fuel` of
them. -/
def run (g : Graph) : Nat → Survey → Except Fault Unit
  | 0, _ => .ok ()
  | fuel + 1, s =>
    match s.open_ with
    | [] => .ok ()
    | n :: rest => do run g fuel (← lookInto g { s with open_ := rest } n)

end Survey

/-- The first fault among the nodes of a document. No collection is looked into twice. -/
def Graph.check (g : Graph) : Except Fault Unit := do
  Survey.run g g.nodes.size (← (Survey.start g).meet g g.root)

end SchemaLint.Yaml

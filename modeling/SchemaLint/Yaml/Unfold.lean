import SchemaLint.Yaml.Node
import SchemaLint.Yaml.Plain

/-!
# Values of YAML documents

The value of a document is put together from its nodes. First come the nodes that do not hold
themselves and hold none that do, from the innermost outwards, so that each has one value however
many aliases stand for it. All other collections are loops by their numbers, unfolded up to where
they stand within themselves.

Of several entries of a mapping with the same key the last counts, at the place of the first.
-/

namespace SchemaLint.Yaml

/-- The value of a scalar. A plain one that stands for no value is taken as it is written. -/
def scalarValue (text : String) (plain : Bool) : Value :=
  if plain then (Plain.value text).toOption.getD (.str text) else .str text

/-- The map of some entries. -/
def mapOf (entries : List (Value × Value)) : Value :=
  .map (entries.foldl (fun before e => Value.insertEntry e.1 e.2 before) [])

/-- What a node is a value of, given the values of the nodes in it. -/
def Content.valueM {m : Type → Type} [Monad m] (value : Nat → m Value) : Content → m Value
  | .scalar text plain => return scalarValue text plain
  | .sequence items => return .list (← items.mapM value)
  | .mapping entries => return mapOf (← entries.mapM fun e => return (← value e.1, ← value e.2))

namespace Graph

/-- The values that nodes have once the values of the nodes in them are known. -/
def grow (g : Graph) (known : Array (Option Value)) : Array (Option Value) :=
  (Array.range g.nodes.size).map fun n =>
    match known[n]?, g.nodes[n]? with
    | some (some v), _ => some v
    | _, some node => node.content.valueM fun child => (known[child]?).join
    | _, none => none

/-- The values of all nodes that can be known, in at most `fuel` steps. -/
def settle (g : Graph) : Nat → Array (Option Value) → Array (Option Value)
  | 0, known => known
  | fuel + 1, known =>
    let next := g.grow known
    if next.countP Option.isSome = known.countP Option.isSome then known else g.settle fuel next

/-- The value of a node within the nodes of `path`, in at most `fuel` steps into each other. -/
def unfold (g : Graph) (known : Array (Option Value)) : Nat → List Nat → Nat → Value
  | 0, _, n => .back n
  | fuel + 1, path, n =>
    match known[n]?, g.nodes[n]? with
    | some (some v), _ => v
    | _, some node =>
      if path.contains n then .back n
      else .loop n (Id.run (node.content.valueM (m := Id) fun child => g.unfold known fuel (n :: path) child))
    | _, none => .null

/-- The value of a document. -/
def value (g : Graph) : Value :=
  let known := g.settle (g.nodes.size + 1) (Array.replicate g.nodes.size none)
  g.unfold known (g.nodes.size + 1) [] g.root

end Graph
end SchemaLint.Yaml

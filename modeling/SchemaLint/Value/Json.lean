import SchemaLint.Json.Basic
import SchemaLint.Value.Text

/-!
# Configuration values as JSON

Every JSON value is a configuration value. The other way round keys become texts, loops end where they
would start again, and values of other kinds become the texts that they are written as.
-/

namespace SchemaLint.Value

mutual

/-- The configuration value of a JSON value. -/
def ofJson : Json → Value
  | .null => .null
  | .bool b => .bool b
  | .int n => .int n
  | .float x => .float x
  | .str s => .str s
  | .arr elements => .list (ofElements elements)
  | .obj members => .map (ofMembers members)

/-- The items of a list from the elements of an array. -/
def ofElements : List Json → List Value
  | [] => []
  | x :: rest => ofJson x :: ofElements rest

/-- The entries of a map from the members of an object. -/
def ofMembers : List (String × Json) → List (Value × Value)
  | [] => []
  | (k, x) :: rest => (.str k, ofJson x) :: ofMembers rest

end

mutual

/-- The JSON value of a configuration value. -/
def toJson : Value → Json
  | .null => .null
  | .bool b => .bool b
  | .int n => .int n
  | .float x => .float x
  | .str s => .str s
  | .list items => .arr (toElements items)
  | .map entries => .obj (toMembers entries)
  | .loop _ content => toJson content
  | .back _ => .null
  | .other o => .str o.plain

/-- The elements of an array from the items of a list. -/
def toElements : List Value → List Json
  | [] => []
  | v :: rest => toJson v :: toElements rest

/-- The members of an object from the entries of a map. -/
def toMembers : List (Value × Value) → List (String × Json)
  | [] => []
  | (k, v) :: rest => (k.plain, toJson v) :: toMembers rest

end

end SchemaLint.Value

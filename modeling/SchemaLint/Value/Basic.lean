import SchemaLint.Number.Double

/-!
# Configuration values

The values of which a configuration is made. The entries of a map are in order, and a key may be any
value but a list or a map.

A list or a map may hold itself, and so have no end. It is then the content of a loop that has a
number, and where it stands within itself a way back to that number is written.

YAML has values of further kinds, such as dates, bytes and sets. Of these it is only known how they are
written, as no configuration has a use for them.
-/

namespace SchemaLint

/-- Why a value cannot be written: a whole number in it has too many digits, or it holds values within
values beyond the room that there is for that. -/
inductive WriteFault where
  | number | tooDeep
  deriving DecidableEq, Repr

/-- A value of a kind that no configuration has a use for.

* `kind`: what values of the kind are called;
* `shown`, `plain`: how the value is shown in messages, and how as plain text;
* `fault`: why it can be neither, for the room that there is for values within values. -/
structure OtherValue where
  kind : String
  shown : String
  plain : String
  fault : Nat → Option WriteFault

/-- A configuration value. -/
inductive Value where
  | null
  | bool (b : Bool)
  | int (n : Int)
  | float (x : Number.Double)
  | str (s : String)
  | list (items : List Value)
  | map (entries : List (Value × Value))
  | loop (number : Nat) (content : Value)
  | back (number : Nat)
  | other (o : OtherValue)

namespace Value

mutual

/-- The value with `w` in place of the ways back to a number that no loop in it has. -/
def replaceBack (number : Nat) (w : Value) : Value → Value
  | .list items => .list (replaceBackItems number w items)
  | .map entries => .map (replaceBackEntries number w entries)
  | .loop n content =>
    if n = number then .loop n content else .loop n (replaceBack number w content)
  | .back n => if n = number then w else .back n
  | v => v

/-- The items of a list with `w` in place of the ways back to a number. -/
def replaceBackItems (number : Nat) (w : Value) : List Value → List Value
  | [] => []
  | v :: rest => replaceBack number w v :: replaceBackItems number w rest

/-- The entries of a map with `w` in place of the ways back to a number. -/
def replaceBackEntries (number : Nat) (w : Value) : List (Value × Value) → List (Value × Value)
  | [] => []
  | (k, v) :: rest => (k, replaceBack number w v) :: replaceBackEntries number w rest

end

/-- What a value is: of a loop the list or the map, in which the loop itself stands in place of the
ways back to it. -/
def opened : Value → Value
  | .loop number content => replaceBack number (.loop number content) content
  | v => v

/-- A list of texts. -/
def strings (ss : List String) : Value := .list (ss.map .str)

/-- The text of a text value. -/
def str? : Value → Option String
  | .str s => some s
  | _ => none

/-- The texts of a list that holds nothing but texts. -/
def strs? : List Value → Option (List String)
  | [] => some []
  | .str s :: rest => (strs? rest).map (s :: ·)
  | _ :: _ => none

/-- The value of a text key in the entries of a map. -/
def lookup? (key : String) : List (Value × Value) → Option Value
  | [] => none
  | (.str k, v) :: rest => if k = key then some v else lookup? key rest
  | _ :: rest => lookup? key rest

/-- The fraction that a number or a truth value counts as. An infinite number has the denominator
zero. -/
def fraction? : Value → Option (Int × Nat)
  | .bool b => some (if b then 1 else 0, 1)
  | .int n => some (n, 1)
  | .float (.finite negative mantissa exponent) =>
    let (num, den) := Number.scaleDown 2 mantissa 1 (-exponent)
    some (if negative then -num else num, den)
  | .float (.infinite negative) => some (if negative then -1 else 1, 0)
  | _ => none

/-- Both values are numbers or truth values, and the first is less than the second. -/
def isLess (a b : Value) : Bool :=
  match a.fraction?, b.fraction? with
  | some (n, 0), some (m, 0) => n < m
  | some (n, d), some (m, e) => n * e < m * d
  | _, _ => false

/-- Two values are the same key of a map. Numbers and truth values are the same when they are equal as
numbers. -/
def sameKey (a b : Value) : Bool :=
  match a, b with
  | .null, .null | .float .notANumber, .float .notANumber => true
  | .str s, .str t => s == t
  | _, _ =>
    match a.fraction?, b.fraction? with
    | some (n, 0), some (m, 0) => n == m
    | some (n, d), some (m, e) => n * e == m * d
    | _, _ => false

/-- The entries with `v` under the key `k`: in place of the old value if there is one, else at the
end. -/
def insertEntry (k v : Value) : List (Value × Value) → List (Value × Value)
  | [] => [(k, v)]
  | (k', v') :: rest =>
    if sameKey k' k then (k', v) :: rest else (k', v') :: insertEntry k v rest

end Value
end SchemaLint

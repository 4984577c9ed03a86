/-!
# Similar names

How alike two texts are is measured by the characters that they share in order. The longest block
common to both is found first (of several the one that starts earliest in the candidate, then
earliest in the name), and the search goes on to its left and to its right. With `M` characters in
such blocks and `T` characters in both texts together the likeness is `2 * M / T`; it is 1 for two
empty texts.

In a name of 200 characters or more, a character that makes up over a hundredth of it is common: no
block is searched from it, though a block found from others is extended over it.
-/

namespace SchemaLint.Text.Similar

/-- A block of `size` equal characters: it starts at `first` in the candidate and at `second` in the
name. -/
structure Block where
  first : Nat
  second : Nat
  size : Nat

/-- For each position of the name, the length of the common block that ends there and at the
character `c` of the candidate; `above` holds the same for the character before `c`. -/
def blockEnds (common : Char → Bool) (c : Char) : List Char → List Nat → List Nat
  | [], _ => []
  | d :: name, above =>
    (if c == d && !common d then above.headD 0 + 1 else 0) :: blockEnds common c name above.tail

/-- The first position of a row whose block is longer than `best`. -/
def improve (i : Nat) (best : Block) (row : List Nat) : Block :=
  (row.zipIdx.foldl (fun b (k, j) =>
    if b.size < k then ⟨i + 1 - k, j + 1 - k, k⟩ else b) best)

/-- The longest block over the characters of the candidate that are left; `i` of them have been seen,
and `row` belongs to the last of these, behind a leading zero. -/
def search (common : Char → Bool) (name : List Char) : Nat → Block → List Nat → List Char → Block
  | _, best, _, [] => best
  | i, best, row, c :: candidate =>
    let next := blockEnds common c name row
    search common name (i + 1) (improve i best next) (0 :: next) candidate

/-- Length of the common start of two texts. -/
def commonStart : List Char → List Char → Nat
  | a :: as, b :: bs => if a == b then commonStart as bs + 1 else 0
  | _, _ => 0

/-- The longest common block, extended over common characters on both sides. -/
def longest (common : Char → Bool) (candidate name : List Char) : Block :=
  let b := search common name 0 ⟨0, 0, 0⟩ [] candidate
  let left := commonStart (candidate.take b.first).reverse (name.take b.second).reverse
  let right := commonStart (candidate.drop (b.first + b.size)) (name.drop (b.second + b.size))
  ⟨b.first - left, b.second - left, b.size + left + right⟩

/-- Number of characters in matching blocks. Each block shortens the candidate, so that its length is
fuel enough. -/
def matched (common : Char → Bool) : Nat → List Char → List Char → Nat
  | 0, _, _ => 0
  | fuel + 1, candidate, name =>
    let b := longest common candidate name
    if b.size = 0 then 0
    else
      b.size + matched common fuel (candidate.take b.first) (name.take b.second) +
        matched common fuel (candidate.drop (b.first + b.size)) (name.drop (b.second + b.size))

/-- The characters of a long name from which no block is searched. -/
def isCommonIn (name : List Char) (c : Char) : Bool :=
  200 ≤ name.length && name.length / 100 + 1 < name.count c

/-- A candidate with its likeness `2 * matches / total`. -/
structure Scored where
  candidate : String
  matches_ : Nat
  total : Nat

/-- The likeness of a candidate to a name. -/
def score (name candidate : String) : Scored :=
  let n := name.toList
  let c := candidate.toList
  let common := (n.filter (isCommonIn n)).eraseDups
  ⟨candidate, matched (common.contains ·) c.length c n, c.length + n.length⟩

/-- The likeness is at least 3/5. -/
def Scored.isClose (s : Scored) : Bool :=
  3 * s.total ≤ 10 * s.matches_

/-- `s` comes before `t`: it is more alike, or as much and later in the alphabet. Likenesses of one
name are compared as fractions; the empty candidate of an empty name counts as 1. -/
def Scored.before (s t : Scored) : Bool :=
  let x := if s.total = 0 then (1, 2) else (s.matches_, s.total)
  let y := if t.total = 0 then (1, 2) else (t.matches_, t.total)
  let l := x.1 * y.2
  let r := y.1 * x.2
  r < l || (l == r && t.candidate ≤ s.candidate)

/-- At most three candidates that are like the name, the most alike first. -/
def suggest (name : String) (candidates : List String) : List String :=
  let close := (candidates.map (score name)).filter Scored.isClose
  ((close.mergeSort Scored.before).take 3).map Scored.candidate

end SchemaLint.Text.Similar

/-!
# Maps by name

Maps from names to values as association lists in strictly ascending order of names. Two maps with
the same entries are equal, whatever the order in which they were filled.
-/

namespace SchemaLint

/-- A map from names to values of `α`. -/
structure NameMap (α : Type) where
  entries : List (String × α)
  sorted : (entries.map (·.1)).Pairwise (· < ·)

/-- A set of names. -/
abbrev NameSet := NameMap Unit

namespace NameMap
variable {α : Type}

/-- Maps with the same entries are equal. -/
theorem ext_entries {m n : NameMap α} (h : m.entries = n.entries) : m = n := by
  cases m; cases n; cases h; rfl

instance [DecidableEq α] : DecidableEq (NameMap α) := fun m n =>
  decidable_of_iff (m.entries = n.entries) ⟨ext_entries, fun h => h ▸ rfl⟩

/-- The entries with `v` under the name `k`. -/
def insertEntry (k : String) (v : α) : List (String × α) → List (String × α)
  | [] => [(k, v)]
  | (k', v') :: rest =>
    if k < k' then (k, v) :: (k', v') :: rest
    else if k = k' then (k, v) :: rest
    else (k', v') :: insertEntry k v rest

/-- Insertion adds at most one name. -/
theorem of_mem_insertEntry {k x : String} {v : α} {entries : List (String × α)}
    (h : x ∈ (insertEntry k v entries).map (·.1)) : x = k ∨ x ∈ entries.map (·.1) := by
  induction entries with
  | nil => simpa [insertEntry] using h
  | cons e rest ih =>
    simp only [insertEntry] at h
    split at h
    · simpa using h
    · split at h
      · simp only [List.map_cons, List.mem_cons] at h ⊢
        rcases h with h | h
        · exact Or.inl h
        · exact Or.inr (Or.inr h)
      · simp only [List.map_cons, List.mem_cons] at h ⊢
        rcases h with h | h
        · exact Or.inr (Or.inl h)
        · exact (ih h).imp_right Or.inr

/-- Insertion keeps the entries in order. -/
theorem insertEntry_sorted {k : String} {v : α} {entries : List (String × α)}
    (h : (entries.map (·.1)).Pairwise (· < ·)) :
    ((insertEntry k v entries).map (·.1)).Pairwise (· < ·) := by
  induction entries with
  | nil => simp [insertEntry]
  | cons e rest ih =>
    rw [List.map_cons, List.pairwise_cons] at h
    obtain ⟨first, tail⟩ := h
    simp only [insertEntry]
    split
    · rename_i lt
      simp only [List.map_cons, List.pairwise_cons]
      refine ⟨?_, first, tail⟩
      intro x hx
      rcases List.mem_cons.1 hx with rfl | hx
      · exact lt
      · exact String.lt_trans lt (first x hx)
    · split
      · rename_i eq
        rw [List.map_cons, List.pairwise_cons]
        exact ⟨fun x hx => eq ▸ first x hx, tail⟩
      · rename_i ge ne
        rw [List.map_cons, List.pairwise_cons]
        refine ⟨fun x hx => ?_, ih tail⟩
        rcases of_mem_insertEntry hx with rfl | hx
        · grind
        · exact first x hx

/-- The map without entries. -/
def empty : NameMap α := ⟨[], List.Pairwise.nil⟩

/-- The map with `v` under the name `k`. -/
def insert (m : NameMap α) (k : String) (v : α) : NameMap α :=
  ⟨insertEntry k v m.entries, insertEntry_sorted m.sorted⟩

/-- The map of some entries, of which later ones replace earlier ones. -/
def ofList (entries : List (String × α)) : NameMap α :=
  entries.foldl (fun m e => m.insert e.1 e.2) empty

/-- The value under a name. -/
def get? (m : NameMap α) (k : String) : Option α :=
  (m.entries.find? (·.1 == k)).map (·.2)

/-- The names in ascending order. -/
def names (m : NameMap α) : List String := m.entries.map (·.1)

/-- There are no entries. -/
def isEmpty (m : NameMap α) : Bool := m.entries.isEmpty

end NameMap

namespace NameSet

/-- The set of some names. -/
def ofNames (names : List String) : NameSet := .ofList (names.map (·, ()))

/-- Membership. -/
def contains (s : NameSet) (name : String) : Bool := (NameMap.names s).contains name

/-- The set with more names. -/
def add (s : NameSet) (names : List String) : NameSet :=
  names.foldl (fun s name => NameMap.insert s name ()) s

end NameSet
end SchemaLint

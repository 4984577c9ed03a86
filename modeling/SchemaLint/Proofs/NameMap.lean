import Mathlib
import SchemaLint.NameMap

/-!
# Names in maps and sets

Insertion puts one name into a map and takes none out of it. A map is the map of its entries, and the
set of some names has these and no others.
-/

namespace SchemaLint

namespace NameMap
variable {α : Type} {m : NameMap α} {k x : String} {v : α} {entries : List (String × α)}

/-- A name that is set is one of the names, besides those that were there. -/
lemma mem_names_insert : x ∈ (m.insert k v).names ↔ x = k ∨ x ∈ m.names := by
  obtain ⟨entries, sorted⟩ := m
  show x ∈ (insertEntry k v entries).map (·.1) ↔ x = k ∨ x ∈ entries.map (·.1)
  induction entries with
  | nil => simp [insertEntry]
  | cons e entries ih =>
    have ih := ih (List.pairwise_cons.1 sorted).2
    rw [insertEntry]
    split
    · simp
    · split
      · rename_i same
        subst same
        simp
      · rw [List.map_cons, List.mem_cons, ih, List.map_cons, List.mem_cons, or_left_comm]

/-- A name behind all others comes last. -/
lemma insertEntry_of_forall_lt (behind : ∀ e ∈ entries, e.1 < k) :
    insertEntry k v entries = entries ++ [(k, v)] := by
  induction entries with
  | nil => rfl
  | cons e entries ih =>
    have lt : e.1 < k := behind e List.mem_cons_self
    have ih := ih fun e mem => behind e (List.mem_cons_of_mem _ mem)
    rw [insertEntry, if_neg (not_lt_of_gt lt), if_neg (ne_of_gt lt), ih]
    rfl

/-- Entries in order go to the end of a map, one after the other. -/
lemma entries_foldl_insert (sorted : ((m.entries ++ entries).map (·.1)).Pairwise (· < ·)) :
    (entries.foldl (fun m e => m.insert e.1 e.2) m).entries = m.entries ++ entries := by
  induction entries generalizing m with
  | nil => exact (List.append_nil _).symm
  | cons e entries ih =>
    have behind : ∀ e' ∈ m.entries, e'.1 < e.1 := by
      intro e' mem
      rw [List.map_append, List.pairwise_append] at sorted
      exact sorted.2.2 _ (List.mem_map_of_mem mem) _ (List.mem_map_of_mem List.mem_cons_self)
    have inserted : (m.insert e.1 e.2).entries = m.entries ++ [e] := insertEntry_of_forall_lt behind
    have assoc : m.entries ++ [e] ++ entries = m.entries ++ e :: entries := by simp
    rw [List.foldl_cons, ih, inserted, assoc]
    rwa [inserted, assoc]

/-- A map is the map of its entries. -/
lemma ofList_entries (m : NameMap α) : ofList m.entries = m :=
  ext_entries (entries_foldl_insert m.sorted)

/-- The names of a map are those of the entries that it is made of. -/
lemma mem_names_ofList : x ∈ (ofList entries).names ↔ x ∈ entries.map (·.1) := by
  have fold : ∀ m : NameMap α, x ∈ (entries.foldl (fun m e => m.insert e.1 e.2) m).names ↔
      x ∈ m.names ∨ x ∈ entries.map (·.1) := by
    induction entries with
    | nil => simp
    | cons e entries ih =>
      intro m
      rw [List.foldl_cons, ih, mem_names_insert, List.map_cons, List.mem_cons, or_assoc, or_left_comm]
  have empty : x ∉ (NameMap.empty : NameMap α).names := nofun
  rw [ofList, fold, or_iff_right empty]

end NameMap

namespace NameSet
variable {s : NameSet} {x : String}

/-- Names that are added are in the set, besides those that were there. -/
lemma mem_names_add {names : List String} : x ∈ (s.add names).names ↔ x ∈ s.names ∨ x ∈ names := by
  induction names generalizing s with
  | nil => simp [add]
  | cons name names ih =>
    have step : s.add (name :: names) = add (NameMap.insert s name ()) names := rfl
    rw [step, ih, NameMap.mem_names_insert, List.mem_cons, or_assoc, or_left_comm]

/-- The names of a set are those that it is made of. -/
lemma mem_names_ofNames {names : List String} : x ∈ (ofNames names).names ↔ x ∈ names := by
  rw [ofNames, NameMap.mem_names_ofList, List.map_map]
  simp

/-- A set is the set of its names. -/
lemma ofNames_names (s : NameSet) : ofNames s.names = s := by
  have entries : s.names.map (·, ()) = s.entries := by
    rw [NameMap.names, List.map_map]
    exact List.map_id _
  rw [ofNames, entries, NameMap.ofList_entries]

end NameSet

end SchemaLint

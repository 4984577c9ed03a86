import Mathlib

/-!
# Distinct elements

`List.eraseDups` keeps the first of several equal elements. Its result has the elements of the list,
each once, and the numbers of their occurrences add up to the length of the list.

That `x` occurs before `y` in a list is said by `[x, y].Sublist`. Elements of a list have different
keys if no two of which one occurs before the other have the same, and then a key finds its element.
-/

namespace SchemaLint

section
variable {α : Type} [DecidableEq α]

/-- A list without its repetitions has none. -/
lemma nodup_eraseDups : ∀ xs : List α, xs.eraseDups.Nodup
  | [] => by simp
  | x :: xs => by
    rw [List.eraseDups_cons]
    refine List.nodup_cons.2 ⟨?_, nodup_eraseDups _⟩
    intro mem
    rw [List.mem_eraseDups, List.mem_filter] at mem
    simp at mem
termination_by xs => xs.length
decreasing_by
  exact Nat.lt_succ_of_le (List.length_filter_le _ _)

/-- One more element is left out if it was there before. -/
lemma eraseDups_concat (xs : List α) (x : α) :
    (xs ++ [x]).eraseDups = if x ∈ xs then xs.eraseDups else xs.eraseDups ++ [x] := by
  rw [List.eraseDups_append]
  by_cases mem : x ∈ xs
  · rw [if_pos mem]
    simp [List.removeAll, mem]
  · rw [if_neg mem]
    simp [List.removeAll, mem, List.eraseDups_cons]

/-- The distinct elements in the order of their first occurrence are those in the order of their
last one, up to the order. -/
lemma eraseDups_perm_dedup (xs : List α) : xs.eraseDups.Perm xs.dedup := by
  refine (List.perm_ext_iff_of_nodup (nodup_eraseDups xs) (List.nodup_dedup xs)).2 ?_
  intro x
  rw [List.mem_eraseDups, List.mem_dedup]

/-- The numbers of times that elements are there add up to the length. -/
lemma sum_count_eraseDups (xs : List α) :
    (xs.eraseDups.map (xs.count ·)).sum = xs.length := by
  calc (xs.eraseDups.map (xs.count ·)).sum
      = (xs.dedup.map (xs.count ·)).sum := ((eraseDups_perm_dedup xs).map _).sum_eq
    _ = xs.length := List.sum_map_count_dedup_eq_length xs

/-- What the elements of a list are mapped to comes in the order in which it comes first. -/
lemma pairwise_findIdx_eraseDups_filterMap {β : Type} (f : β → Option α) (xs : List β) :
    (xs.filterMap f).eraseDups.Pairwise fun a b =>
      xs.findIdx (f · == some a) < xs.findIdx (f · == some b) := by
  induction xs generalizing f with
  | nil => exact .nil
  | cons x xs ih =>
    cases eq : f x with
    | none =>
      rw [List.filterMap_cons_none eq]
      refine (ih f).imp fun lt => ?_
      simpa [List.findIdx_cons, eq] using lt
    | some c =>
      -- what comes behind the first one is mapped to by the same function without it
      have rest : (xs.filterMap f).filter (!· == c) =
          xs.filterMap fun y => (f y).filter (!· == c) := List.filter_filterMap
      have index : ∀ {b}, b ∈ ((xs.filterMap f).filter (!· == c)).eraseDups →
          (x :: xs).findIdx (f · == some b) =
            xs.findIdx (fun y => (f y).filter (!· == c) == some b) + 1 := by
        intro b mem
        rw [List.mem_eraseDups, List.mem_filter] at mem
        have ne : b ≠ c := by simpa using mem.2
        have other : (some c == some b) = false := by simpa using ne.symm
        have same : ∀ y, (f y == some b) = ((f y).filter (!· == c) == some b) := by
          intro y
          cases f y with
          | none => rfl
          | some d => by_cases eq : d = b <;> simp [eq, ne]
        rw [List.findIdx_cons, eq, other, cond_false]
        simp only [same]
      rw [List.filterMap_cons_some eq, List.eraseDups_cons, List.pairwise_cons]
      refine ⟨fun b mem => ?_, ?_⟩
      · rw [index mem]
        simp [List.findIdx_cons, eq]
      · have tail := ih fun y => (f y).filter (!· == c)
        rw [← rest] at tail
        refine tail.imp_of_mem fun memA memB lt => ?_
        rw [index memA, index memB]
        exact Nat.succ_lt_succ lt

end

section
variable {α β : Type}

/-- Different elements of a list occur one before the other. -/
lemma pair_sublist_or {x y : α} {xs : List α} (memX : x ∈ xs) (memY : y ∈ xs) (ne : x ≠ y) :
    [x, y].Sublist xs ∨ [y, x].Sublist xs := by
  induction xs with
  | nil => cases memX
  | cons z xs ih =>
    cases memX with
    | head =>
      have later : y ∈ xs := (List.mem_cons.1 memY).resolve_left (Ne.symm ne)
      exact .inl ((List.singleton_sublist.2 later).cons_cons x)
    | tail _ memX =>
      cases memY with
      | head => exact .inr ((List.singleton_sublist.2 memX).cons_cons y)
      | tail _ memY => exact (ih memX memY).imp (·.cons z) (·.cons z)

/-- Two elements of a list, one behind the other, are the first and another one, or further ones. -/
lemma pair_sublist_cons {x y z : α} {xs : List α} :
    [x, y].Sublist (z :: xs) ↔ (x = z ∧ y ∈ xs) ∨ [x, y].Sublist xs := by
  constructor
  · intro sub
    cases sub with
    | cons _ sub => exact .inr sub
    | cons_cons _ sub => exact .inl ⟨rfl, List.singleton_sublist.1 sub⟩
  · rintro (⟨rfl, mem⟩ | sub)
    · exact (List.singleton_sublist.2 mem).cons_cons x
    · exact sub.cons z

/-- Two results, one behind the other, come of two elements that are so. -/
lemma pair_sublist_filterMap {f : α → Option β} {x y : β} {xs : List α} :
    [x, y].Sublist (xs.filterMap f) ↔
      ∃ a b, [a, b].Sublist xs ∧ f a = some x ∧ f b = some y := by
  constructor
  · intro sub
    induction xs with
    | nil => cases sub
    | cons z xs ih =>
      rw [List.filterMap_cons] at sub
      split at sub
      · obtain ⟨a, b, ab, fa, fb⟩ := ih sub
        exact ⟨a, b, ab.cons z, fa, fb⟩
      · rename_i w fz
        rcases pair_sublist_cons.1 sub with ⟨rfl, mem⟩ | sub
        · obtain ⟨b, mem, fb⟩ := List.mem_filterMap.1 mem
          exact ⟨z, b, pair_sublist_cons.2 (.inl ⟨rfl, mem⟩), fz, fb⟩
        · obtain ⟨a, b, ab, fa, fb⟩ := ih sub
          exact ⟨a, b, ab.cons z, fa, fb⟩
  · rintro ⟨a, b, sub, fa, fb⟩
    simpa [fa, fb] using sub.filterMap f

/-- Keys are different if no two elements, one behind the other, have the same. -/
lemma nodup_map_iff {key : α → String} {xs : List α} :
    (xs.map key).Nodup ↔ ∀ x y, [x, y].Sublist xs → key x ≠ key y := by
  rw [List.Nodup, List.pairwise_map, List.pairwise_iff_forall_sublist]

/-- Among elements of different keys, a key finds its element. -/
lemma find?_key_eq_some {κ : Type} [DecidableEq κ] {key : α → κ} {x : α} {xs : List α}
    (nodup : (xs.map key).Nodup) (mem : x ∈ xs) : xs.find? (key · == key x) = some x := by
  induction xs with
  | nil => cases mem
  | cons z xs ih =>
    rw [List.map_cons, List.nodup_cons] at nodup
    cases mem with
    | head => exact List.find?_cons_of_pos (by simp)
    | tail _ mem =>
      have ne : key z ≠ key x := fun eq => nodup.1 (eq ▸ List.mem_map_of_mem mem)
      rw [List.find?_cons_of_neg (by simpa using ne)]
      exact ih nodup.2 mem

/-- If keys are different, the element of a key is the one that has it. -/
lemma find?_key_eq_some_iff {key : α → String} {k : String} {x : α} {xs : List α}
    (nodup : (xs.map key).Nodup) : xs.find? (key · == k) = some x ↔ x ∈ xs ∧ key x = k := by
  constructor
  · intro found
    exact ⟨List.mem_of_find?_eq_some found, by simpa using List.find?_some found⟩
  · rintro ⟨mem, rfl⟩
    exact find?_key_eq_some nodup mem

/-- What a key finds among elements of different keys passes a test just if an element of the key
does. -/
lemma any_find?_key_iff {key : α → String} {k : String} {xs : List α}
    (nodup : (xs.map key).Nodup) {p : α → Bool} :
    (xs.find? (key · == k)).any p ↔ ∃ x ∈ xs, key x = k ∧ p x := by
  rw [Option.any_eq_true]
  refine exists_congr fun x => ?_
  rw [find?_key_eq_some_iff nodup, and_assoc]

/-- Where a key is found among elements of different keys does not depend on their order. -/
lemma find?_key_of_perm {key : α → String} {xs ys : List α} (perm : xs.Perm ys)
    (nodup : (xs.map key).Nodup) (k : String) :
    xs.find? (key · == k) = ys.find? (key · == k) := by
  have nodup' : (ys.map key).Nodup := (perm.map key).nodup_iff.1 nodup
  cases found : xs.find? (key · == k) with
  | some x =>
    have same : key x = k := by simpa using List.find?_some found
    subst same
    exact (find?_key_eq_some nodup' (perm.mem_iff.1 (List.mem_of_find?_eq_some found))).symm
  | none =>
    refine (List.find?_eq_none.2 fun y mem => ?_).symm
    exact List.find?_eq_none.1 found y (perm.mem_iff.2 mem)

end

end SchemaLint

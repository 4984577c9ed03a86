import Mathlib
import SchemaLint.Lint.Run

/-!
# Shared work

However many workers share a list, together they take each item once, and what they have finished
comes out in the order of the items: `mapShared` is `map`.
-/

namespace SchemaLint.Lint

variable {α β : Type}

/-- Lists that hold an item at one key only make up the list of the item. -/
lemma flatMap_range_single {n k : Nat} (lt : k < n) (x : α) :
    (List.range n).flatMap (fun w => if k == w then [x] else []) = [x] := by
  induction n with
  | zero => exact absurd lt (Nat.not_lt_zero k)
  | succ n ih =>
    rw [List.range_succ, List.flatMap_append]
    -- the item is at an earlier key, or at the last one and at none before
    rcases Nat.lt_succ_iff_lt_or_eq.1 lt with lt | rfl
    · rw [ih lt]
      simp [Nat.ne_of_lt lt]
    · have none_before : (List.range k).flatMap (fun w => if k == w then [x] else []) = [] := by
        rw [List.flatMap_eq_nil_iff]
        intro w mem
        have ne : k ≠ w := (Nat.ne_of_lt (List.mem_range.1 mem)).symm
        simp [ne]
      rw [none_before]
      simp

/-- The items by key, for all keys in turn, are all items. -/
lemma flatMap_filter_key_perm (key : α → Nat) {n : Nat} (items : List α)
    (lt : ∀ x ∈ items, key x < n) :
    ((List.range n).flatMap fun w => items.filter (key · == w)).Perm items := by
  induction items with
  | nil => simp
  | cons x items ih =>
    have split : ∀ w, (x :: items).filter (key · == w) =
        (if key x == w then [x] else []) ++ items.filter (key · == w) := by
      intro w
      rw [List.filter_cons]
      split <;> rfl
    have here : key x < n := lt x List.mem_cons_self
    have rest := ih fun y mem => lt y (List.mem_cons_of_mem x mem)
    simp only [split]
    refine (List.flatMap_append_perm _ _ _).symm.trans ?_
    rw [flatMap_range_single here]
    exact rest.append_left [x]

/-- Together the workers finish each item once. -/
lemma finished_perm {workers : Nat} (pos : 0 < workers) (f : α → β) (items : List (α × Nat)) :
    ((List.range workers).flatMap (finishedBy f items workers)).Perm
      (items.map fun item => (f item.1, item.2)) := by
  have shares := flatMap_filter_key_perm (fun item : α × Nat => item.2 % workers)
    items fun item _ => Nat.mod_lt item.2 pos
  have finished := shares.map fun item => (f item.1, item.2)
  rwa [List.map_flatMap] at finished

/-- Numbers of members grow along the list. -/
lemma zipIdx_pairwise (xs : List α) : (xs.zipIdx).Pairwise (·.2 < ·.2) := by
  have increasing : (List.range' 0 xs.length).Pairwise (· < ·) := List.pairwise_lt_range'
  rw [← List.zipIdx_map_snd 0 xs, List.pairwise_map] at increasing
  exact increasing

/-- Members of the same number are the same. -/
lemma eq_of_mem_zipIdx {xs : List α} {a b : α × Nat} (memA : a ∈ xs.zipIdx) (memB : b ∈ xs.zipIdx)
    (eq : a.2 = b.2) : a = b := by
  rw [List.mem_zipIdx_iff_getElem?] at memA memB
  rw [eq, memB] at memA
  exact Prod.ext (Option.some.inj memA).symm eq

/-- Sorting what has been finished by its numbers puts it in the order of the items. -/
lemma mergeSort_eq_zipIdx {xs : List α} {finished : List (α × Nat)}
    (perm : finished.Perm xs.zipIdx) : finished.mergeSort (·.2 ≤ ·.2) = xs.zipIdx := by
  have sorted : (finished.mergeSort (·.2 ≤ ·.2)).Pairwise (·.2 ≤ ·.2) := by
    refine (List.pairwise_mergeSort ?_ ?_ finished).imp of_decide_eq_true
    · intro a b c ab bc
      exact decide_eq_true (Nat.le_trans (of_decide_eq_true ab) (of_decide_eq_true bc))
    · intro a b
      simpa using Nat.le_total a.2 b.2
  -- no two items have one number, so there is one sorted list of them
  refine List.Perm.eq_of_pairwise ?_ sorted ?_ ?_
  · intro a b memA memB le ge
    exact eq_of_mem_zipIdx (perm.subset (List.mem_mergeSort.1 memA)) memB (Nat.le_antisymm le ge)
  · exact (zipIdx_pairwise xs).imp Nat.le_of_lt
  · exact (List.mergeSort_perm _ _).trans perm

/-- Work that is shared among workers has the results of the work in order. -/
lemma mapShared_eq_map {workers : Nat} (pos : 0 < workers) (f : α → β) (xs : List α) :
    mapShared workers f xs = xs.map f := by
  rcases Nat.eq_zero_or_pos xs.length with none_left | nonempty
  · cases List.eq_nil_of_length_eq_zero none_left
    simp [mapShared]
  · -- there are no more workers than items, but at least one
    have busy : 0 < min workers xs.length := Nat.lt_min.2 ⟨pos, nonempty⟩
    have perm := finished_perm busy f xs.zipIdx
    have numbered : xs.zipIdx.map (fun item => (f item.1, item.2)) = (xs.map f).zipIdx := by
      rw [List.zipIdx_map]
      rfl
    rw [numbered] at perm
    rw [mapShared, mergeSort_eq_zipIdx perm, List.zipIdx_map_fst]

end SchemaLint.Lint

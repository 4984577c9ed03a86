import Mathlib
import SchemaLint.Rule.Basic

/-!
# Reserved names

Whether a name is reserved is told by its first two characters. So a name that is made of the front of
another and of an ending of its own is reserved only if the other one is, where the ending does not
start with an underscore: `isReserved_append`, `isReserved_of_isPrefix`.
-/

namespace SchemaLint

variable {front ending name : String}

/-- A reserved name starts with two underscores. -/
lemma isReserved_iff : isReserved name ↔ ∃ rest, name = "__" ++ rest := by
  have underscores : "__".toList = ['_', '_'] := rfl
  rw [isReserved, List.isPrefixOf_iff_prefix, ← underscores]
  constructor
  · rintro ⟨rest, text⟩
    exact ⟨String.ofList rest, by simp [← String.toList_inj, ← text]⟩
  · rintro ⟨rest, rfl⟩
    exact ⟨rest.toList, String.toList_append.symm⟩

/-- An ending that starts with no underscore reserves nothing. -/
lemma isReserved_append (other : ∀ c ∈ ending.toList.head?, c ≠ '_') :
    isReserved (front ++ ending) = isReserved front := by
  rw [isReserved, isReserved, String.toList_append]
  generalize ending.toList = cs at other ⊢
  cases cs with
  | nil => rw [List.append_nil]
  | cons c cs =>
    have ne : '_' ≠ c := (other c rfl).symm
    cases front.toList with
    | nil => simp [List.isPrefixOf, ne]
    | cons a rest =>
      cases rest with
      | nil => simp [List.isPrefixOf, ne]
      | cons b rest => simp [List.isPrefixOf]

/-- A name is reserved if a front of it is. -/
lemma isReserved_of_isPrefix (stands : front.toList <+: name.toList) (reserved : isReserved front) :
    isReserved name := by
  rw [isReserved, List.isPrefixOf_iff_prefix] at reserved ⊢
  exact reserved.trans stands

end SchemaLint

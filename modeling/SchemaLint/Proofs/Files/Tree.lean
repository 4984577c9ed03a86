import Mathlib
import SchemaLint.Files.Tree
import SchemaLint.Proofs.Outcome

/-!
# Changes of trees

To make a folder leaves all files as they were (`FileTree.bytesAt?_makeFolder`), and to empty a file or
to add to it changes no other (`FileTree.truncate_eq_ok`, `FileTree.append_of_find`).
-/

namespace SchemaLint.FileTree

variable {t t' : FileTree} {here place q : List String} {p : Path} {e : FileEntry}

/-- The bytes of the file at a place, if there is a file. -/
def bytesAt? (t : FileTree) (place : List String) : Option (List UInt8) :=
  match t.get? place with
  | some (.file bytes) => some bytes
  | _ => none

/-- What stands at a place is what was put there last, by induction on the entries. -/
lemma find?_putEntry (entries : List (List String × FileEntry)) :
    ((putEntry place e entries).find? (·.1 == q)).map (·.2) =
      if q = place then some e else (entries.find? (·.1 == q)).map (·.2) := by
  induction entries with
  | nil =>
    by_cases same : q = place
    · simp [putEntry, same]
    · simp [putEntry, same, Ne.symm same]
  | cons entry rest ih =>
    obtain ⟨other, old⟩ := entry
    unfold putEntry
    by_cases put : other = place
    · subst put
      by_cases same : q = other
      · simp [same]
      · simp [same, Ne.symm same]
    · rw [if_neg put, List.find?_cons, List.find?_cons]
      cases found : other == q with
      | true =>
        cases eq_of_beq found
        rw [if_neg put]
      | false => exact ih

/-- What is put at a place stands there, and nothing else changes. -/
lemma get?_put (ne : place ≠ []) :
    (t.put place e).get? q = if q = place then some e else t.get? q := by
  unfold get? put
  dsimp only
  rw [find?_putEntry]
  by_cases root : q = []
  · subst root
    simp [Ne.symm ne]
  · simp [root]

/-- The root is a folder. -/
lemma ne_nil_of_get? (not_folder : t.get? place ≠ some .folder) : place ≠ [] := by
  rintro rfl
  exact not_folder rfl

/-- A walk goes on from folders only, so what is put where no folder is does not lie in its way. -/
lemma walk_put (not_folder : t.get? place ≠ some .folder) {start parts : List String}
    (ok : t.walk start parts = .ok q) : (t.put place e).walk start parts = .ok q := by
  induction parts generalizing start with
  | nil => exact ok
  | cons part rest ih =>
    unfold walk at ok ⊢
    have on_way : t.get? start = some .folder → start ≠ place := by
      rintro folder rfl
      exact not_folder folder
    rw [get?_put (ne_nil_of_get? not_folder)]
    split at ok
    · rename_i folder
      rw [if_neg (on_way folder), folder]
      dsimp only
      split at ok
      · cases ok
      · rename_i short
        rw [if_neg short]
        exact ih ok
    · cases ok
    · cases ok

/-- A path leads where it led when something is put where no folder is. -/
lemma find_put (not_folder : t.get? place ≠ some .folder) (ok : t.find here p = .ok q) :
    (t.put place e).find here p = .ok q := by
  unfold find at ok ⊢
  split at ok
  · cases ok
  · rename_i short
    rw [if_neg short]
    exact walk_put not_folder ok

/-- A new folder stands where nothing stood. -/
lemma bytesAt?_makeFolder (made : t.makeFolder here p = .ok t') : t'.bytesAt? q = t.bytesAt? q := by
  obtain ⟨place, -, made⟩ := bind_eq_ok_iff.1 made
  split at made
  · cases made
  · rename_i absent
    cases made
    have not_folder : t.get? place ≠ some .folder := by
      rw [absent]
      exact nofun
    rw [bytesAt?, bytesAt?, get?_put (ne_nil_of_get? not_folder)]
    by_cases same : q = place
    · rw [if_pos same, same, absent]
    · rw [if_neg same]

/-- Where there is a file, there is no folder. -/
lemma get?_of_bytesAt? {bytes : List UInt8} (file : t.bytesAt? place = some bytes) :
    t.get? place = some (.file bytes) := by
  unfold bytesAt? at file
  split at file
  · rename_i bytes' stands
    cases file
    exact stands
  · cases file

/-- A file that is put where no folder is stands there, and no other file changes. -/
lemma bytesAt?_put (not_folder : t.get? place ≠ some .folder) (bytes : List UInt8) :
    (t.put place (.file bytes)).bytesAt? place = some bytes ∧
      ∀ q ≠ place, (t.put place (.file bytes)).bytesAt? q = t.bytesAt? q := by
  have ne := ne_nil_of_get? not_folder
  constructor
  · rw [bytesAt?, get?_put ne, if_pos rfl]
  · intro q other
    rw [bytesAt?, bytesAt?, get?_put ne, if_neg other]

/-- To empty a file makes it empty, and nothing else. A sink is left as it is, and whatever is added to
it is lost. -/
lemma truncate_eq_ok (emptied : t.truncate here p = .ok t') :
    (t' = t ∧ ∀ bytes, t.append here p bytes = t) ∨
    ∃ place, t'.find here p = .ok place ∧ t'.bytesAt? place = some [] ∧
      ∀ q ≠ place, t'.bytesAt? q = t.bytesAt? q := by
  obtain ⟨place, found, emptied⟩ := bind_eq_ok_iff.1 emptied
  split at emptied
  · cases emptied
  · rename_i sink
    cases emptied
    refine .inl ⟨rfl, fun bytes => ?_⟩
    unfold append
    rw [found]
    dsimp only
    rw [sink]
  · rename_i not_folder _
    cases emptied
    exact .inr ⟨place, find_put not_folder found, bytesAt?_put not_folder []⟩

/-- What is added to a file stands behind what was there, and nothing else changes. -/
lemma append_of_find {old : List UInt8} (found : t.find here p = .ok place)
    (file : t.bytesAt? place = some old) (bytes : List UInt8) :
    (t.append here p bytes).find here p = .ok place ∧
      (t.append here p bytes).bytesAt? place = some (old ++ bytes) ∧
      ∀ q ≠ place, (t.append here p bytes).bytesAt? q = t.bytesAt? q := by
  have stands := get?_of_bytesAt? file
  have not_folder : t.get? place ≠ some .folder := by
    rw [stands]
    exact nofun
  have appended : t.append here p bytes = t.put place (.file (old ++ bytes)) := by
    rw [append, found]
    dsimp only
    rw [stands]
  rw [appended]
  exact ⟨find_put not_folder found, bytesAt?_put not_folder _⟩

end SchemaLint.FileTree

import Mathlib
import SchemaLint.Proofs.Schema.WellFormed

/-!
# Written references

Fields and arguments of a document get their references from types that are written there. Such a
reference asks for a name, in no list and with a mark, just if it is the one that the name with a mark
is read as.
-/

namespace SchemaLint

/-- The reference that a name with a mark is read as. -/
def TypeRef.required (name : String) : TypeRef := ⟨name, false, 0, none, name ++ "!"⟩

/-- The reference is read from a type. -/
def TypeRef.Written (r : TypeRef) : Prop := ∃ t : Sdl.TypeExpr, r = t.toRef

/-- The references of the field and its arguments are read from types. -/
structure Field.Written (f : Field) : Prop where
  type : f.type.Written
  arguments : ∀ a ∈ f.arguments, a.type.Written

/-- A required reference passes the test for it. -/
lemma TypeRef.isRequired_required (name : String) : (required name).isRequired name := by
  simp [isRequired, isList, required]

/-- There is one reference only that asks for a name, in no list and with a mark. -/
lemma TypeRef.Written.isRequired_iff {r : TypeRef} (written : r.Written) {name : String} :
    r.isRequired name ↔ r = .required name := by
  constructor
  · intro fits
    obtain ⟨t, rfl⟩ := written
    rw [isRequired, Bool.and_eq_true, Bool.and_eq_true, beq_iff_eq] at fits
    obtain ⟨⟨single, rfl⟩, marked⟩ := fits
    cases t with
    | named i required =>
      cases required with
      | true => rfl
      | false => cases marked
    | list _ _ _ => simp [isList, Sdl.TypeExpr.depth] at single
  · rintro rfl
    exact isRequired_required name

/-- The references of a field are written in the document. -/
lemma Field.written_ofNode (owner : String) (node : Sdl.FieldNode) : (ofNode owner node).Written where
  type := ⟨node.type, rfl⟩
  arguments := by
    intro a mem
    obtain ⟨argument, -, rfl⟩ := List.mem_map.1 mem
    exact ⟨argument.type, rfl⟩

/-- The fields of a table that is built of a document have references that are read from types. -/
lemma Table.written_of_build {d : Sdl.Document} {source : Option String} {table : Table}
    (built : Table.build d source = .ok table) {t : TypeDef} (mem : t ∈ table.types) :
    ∀ f ∈ t.fields, f.Written := by
  obtain ⟨-, rfl⟩ := Table.build_eq_ok_iff.1 built
  obtain ⟨name, first, rest, nodes, rfl⟩ := Sdl.Document.exists_nodes_of_mem_types mem
  intro f memF
  obtain ⟨node, -, rfl⟩ := List.mem_map.1 memF
  exact Field.written_ofNode name node

end SchemaLint

import Mathlib
import SchemaLint.Schema.Table

/-!
# Usages of types

The index of usages is built of one argument after the other. What is looked up in it under a name is
all arguments that refer to the type, in the order in which the table has them:
`Table.usagesOf_ofTypes`.
-/

namespace SchemaLint

namespace UsageIndex

/-- The arguments under a name. -/
def get (index : UsageIndex) (name : String) : List Argument :=
  ((index.find? (·.1 == name)).map (·.2)).getD []

/-- An argument is behind the others of its type, and there only. -/
lemma get_add (index : UsageIndex) (a : Argument) (name : String) :
    UsageIndex.get (UsageIndex.add a index) name =
      UsageIndex.get index name ++ [a].filter (·.type.name == name) := by
  induction index with
  | nil => by_cases eq : a.type.name = name <;> simp [get, add, eq]
  | cons e index ih =>
    obtain ⟨key, usages⟩ := e
    by_cases here : key = a.type.name
    · by_cases eq : a.type.name = name <;> simp [get, add, here, eq]
    · by_cases eq : key = name
      · subst eq
        simp [get, add, here, Ne.symm here]
      · rw [get, get] at ih
        simpa [get, add, here, eq] using ih

/-- Arguments that are added to an index are found behind those that were there, by induction on
them. -/
lemma get_foldl_add (as : List Argument) (index : UsageIndex) (name : String) :
    UsageIndex.get (as.foldl (fun index a => UsageIndex.add a index) index) name =
      UsageIndex.get index name ++ as.filter (·.type.name == name) := by
  induction as generalizing index with
  | nil => simp
  | cons a as ih =>
    rw [List.foldl_cons, ih, get_add, List.append_assoc, ← List.filter_append, List.singleton_append]

end UsageIndex

/-- The arguments of a type, in order. -/
def TypeDef.arguments (t : TypeDef) : List Argument := t.fields.flatMap (·.arguments)

/-- The usages of a type are the arguments that refer to it, in the order of the table. -/
lemma Table.usagesOf_ofTypes (types : List TypeDef) (roots : List (Sdl.Operation × String))
    (source name : String) :
    (ofTypes types roots source).usagesOf name =
      (types.flatMap (·.arguments)).filter (·.type.name == name) := by
  have index : UsageIndex.ofTypes types =
      (types.flatMap (·.arguments)).foldl (fun index a => UsageIndex.add a index) [] := by
    rw [List.foldl_flatMap, UsageIndex.ofTypes]
    simp only [TypeDef.arguments, List.foldl_flatMap]
  have usages : (ofTypes types roots source).usagesOf name =
      UsageIndex.get (UsageIndex.ofTypes types) name := rfl
  rw [usages, index, UsageIndex.get_foldl_add]
  rfl

end SchemaLint

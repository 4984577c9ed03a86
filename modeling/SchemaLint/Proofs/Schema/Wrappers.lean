import Mathlib
import SchemaLint.Proofs.Sdl.TypeText

/-!
# Wrappers of a type

A type is a name in wrappers, of which a list may hold any, and a non-null wrapper anything but another
of its kind. All such types can be written, and the reference to a type tells which it is: its parts
are read off the wrappers, and its text is read as the type again: `TypeExpr.toRef_faithful`.
-/

namespace SchemaLint

/-- What stands around a type, or around what is in a wrapper already. -/
inductive Wrapper where
  | list | nonNull
  deriving DecidableEq, Repr

namespace Wrapper

/-- The text of what is in the wrapper, with the wrapper around it. -/
def write : Wrapper → String → String
  | list, inner => "[" ++ inner ++ "]"
  | nonNull, inner => inner ++ "!"

/-- In the wrappers, from the outermost to the innermost, non-null does not stand directly in
non-null. -/
def Proper (ws : List Wrapper) : Prop :=
  ws.IsChain fun outer inner => ¬(outer = nonNull ∧ inner = nonNull)

/-- The wrapper that stands for a mark, if there is one. -/
def ofMark (required : Bool) : List Wrapper := if required then [nonNull] else []

variable {ws : List Wrapper} {required : Bool}

/-- A mark may stand in front of anything but a mark. -/
lemma Proper.ofMark (proper : Proper ws) (apart : ws.head? ≠ some nonNull) (required : Bool) :
    Proper (ofMark required ++ ws) := by
  cases required with
  | false => exact proper
  | true =>
    refine List.isChain_cons.2 ⟨fun inner first both => ?_, proper⟩
    exact apart (both.2 ▸ first)

/-- A mark is written behind what it marks. -/
lemma foldr_ofMark (required : Bool) (inner : String) :
    (ofMark required).foldr write inner = inner ++ if required then "!" else "" := by
  cases required with
  | false => exact String.append_empty.symm
  | true => rfl

end Wrapper

/-- The reference says of a type what it has to, if the type is the core in the wrappers, from the
outermost to the innermost. -/
structure TypeRef.Describes (r : TypeRef) (ws : List Wrapper) (core : String) : Prop where
  name : r.name = core
  text : r.text = ws.foldr Wrapper.write core
  depth : r.depth = ws.count .list
  nullable : r.nullable ↔ ws.head? ≠ some .nonNull
  elementNullable_none : r.elementNullable = none ↔ .list ∉ ws
  elementNullable_some : .list ∈ ws → (r.elementNullable = some true ↔ ws.getLast? ≠ some .nonNull)

namespace Sdl.TypeExpr

variable {t : TypeExpr} {name : String}

/-- The type is the name, or a list of a type that has it at its core. -/
inductive HasCore (name : String) : TypeExpr → Prop where
  | named {i : Ident} {required : Bool} : i.text = name → HasCore name (named i required)
  | list {bracket : Position} {item : TypeExpr} {required : Bool} :
    HasCore name item → HasCore name (list bracket item required)

/-- The innermost name of a type is that of its core. -/
lemma hasCore_iff : t.HasCore name ↔ t.core.1.text = name := by
  constructor
  · intro core
    induction core with
    | named eq => exact eq
    | list _ ih => exact ih
  · intro eq
    induction t with
    | named i required => exact .named eq
    | list bracket item required ih => exact .list (ih eq)

/-- The wrappers of a type, from the outermost to the innermost. -/
def wrappers : TypeExpr → List Wrapper
  | named _ required => Wrapper.ofMark required
  | list _ item required => Wrapper.ofMark required ++ .list :: item.wrappers

/-- The name in the wrappers. -/
def wrap (name : Ident) : List Wrapper → TypeExpr
  | [] => named name false
  | .list :: ws => list .unknown (wrap name ws) false
  | .nonNull :: ws => (wrap name ws).require

/-! ## What the wrappers tell -/

/-- The outermost wrapper is a mark if the type is required. -/
lemma head?_wrappers : t.wrappers.head? = some .nonNull ↔ t.required := by
  cases t with
  | named _ required => cases required <;> simp [wrappers, Wrapper.ofMark, TypeExpr.required]
  | list _ _ required => cases required <;> simp [wrappers, Wrapper.ofMark, TypeExpr.required]

/-- A type has as many wrappers for lists as it has levels. -/
lemma count_wrappers (t : TypeExpr) : t.wrappers.count .list = t.depth := by
  have mark (required : Bool) : (Wrapper.ofMark required).count .list = 0 := by
    cases required <;> rfl
  induction t with
  | named _ required => exact mark required
  | list _ item required ih =>
    rw [wrappers, List.count_append, mark, List.count_cons_self, ih, depth, Nat.zero_add]

/-- The innermost wrapper is a mark if the core is required. -/
lemma getLast?_wrappers : t.wrappers.getLast? = some .nonNull ↔ t.core.2 := by
  induction t with
  | named _ required => cases required <;> simp [wrappers, Wrapper.ofMark, core]
  | list _ item required ih =>
    rw [core, ← ih, wrappers, List.getLast?_append_of_ne_nil _ (List.cons_ne_nil _ _),
      List.getLast?_cons]
    cases item.wrappers.getLast? <;> simp

/-- No mark stands directly within a mark. -/
lemma proper_wrappers (t : TypeExpr) : Wrapper.Proper t.wrappers := by
  induction t with
  | named _ required => cases required <;> simp [wrappers, Wrapper.ofMark, Wrapper.Proper]
  | list _ item required ih =>
    have behind : Wrapper.Proper (.list :: item.wrappers) :=
      List.isChain_cons.2 ⟨fun _ _ both => absurd both.1 nofun, ih⟩
    exact behind.ofMark (by simp) required

/-- A type is written by its wrappers around its innermost name. -/
lemma text_eq_foldr (core : t.HasCore name) : t.text = t.wrappers.foldr Wrapper.write name := by
  induction core with
  | named eq => rw [text, eq, wrappers, Wrapper.foldr_ofMark]
  | list _ ih =>
    rw [text_list, ih, wrappers, List.foldr_append, Wrapper.foldr_ofMark, List.foldr_cons,
      Wrapper.write]
    simp only [String.append_assoc]

/-- The reference to a type says of it what it has to. -/
lemma toRef_describes (core : t.HasCore name) : t.toRef.Describes t.wrappers name where
  name := (toRef_name t).trans (hasCore_iff.1 core)
  text := text_eq_foldr core
  depth := (toRef_depth t).trans (count_wrappers t).symm
  nullable := by
    rw [Ne, head?_wrappers]
    simp
  elementNullable_none := by
    rw [← List.count_eq_zero, count_wrappers]
    simp
  elementNullable_some := by
    intro list
    have some_list : t.depth ≠ 0 := by
      rwa [← count_wrappers, Ne, List.count_eq_zero, not_not]
    rw [Ne, getLast?_wrappers]
    simp [some_list]

/-! ## Types of all wrappers -/

/-- A type that is required has one more wrapper. -/
lemma wrappers_require (plain : t.required = false) :
    t.require.wrappers = .nonNull :: t.wrappers := by
  cases t <;> cases plain <;> rfl

/-- A type that is required has the same innermost name. -/
lemma hasCore_require : t.require.HasCore name ↔ t.HasCore name := by
  simp only [hasCore_iff]
  cases t <;> rfl

/-- Any proper wrappers are those of a type with a given name at its core. -/
lemma wrappers_wrap (name : Ident) {ws : List Wrapper} (proper : Wrapper.Proper ws) :
    (wrap name ws).wrappers = ws ∧ (wrap name ws).HasCore name.text := by
  induction ws with
  | nil => exact ⟨rfl, .named rfl⟩
  | cons w ws ih =>
    obtain ⟨first, rest⟩ := List.isChain_cons.1 proper
    obtain ⟨same, core⟩ := ih rest
    cases w with
    | list => exact ⟨congrArg (Wrapper.list :: ·) same, .list core⟩
    | nonNull =>
      have plain : (wrap name ws).required = false := by
        rw [← Bool.not_eq_true, ← head?_wrappers, same]
        exact fun marked => first .nonNull marked ⟨rfl, rfl⟩
      exact ⟨(wrappers_require plain).trans (congrArg (Wrapper.nonNull :: ·) same), hasCore_require.2 core⟩

/-- The reference to a type is faithful. There is a type for each name in any wrappers in which
non-null does not stand directly in non-null, and no other types. What a reference says is what the
wrappers and the name of its type tell. Its text is read as the type again, but for the positions, if
the reader may go as deep as the type, and no other type has this text. -/
theorem toRef_faithful :
    (∀ ws, Wrapper.Proper ws → ∀ name, ∃ t : TypeExpr, t.wrappers = ws ∧ t.HasCore name) ∧
    ∀ (t : TypeExpr) name, t.HasCore name →
      Wrapper.Proper t.wrappers ∧ t.toRef.Describes t.wrappers name ∧
      (IsName name →
        (∀ levels, t.depth ≤ levels →
          ∃ t', readTo levels t.toRef.text = .ok t' ∧ t'.unplaced = t.unplaced) ∧
        (t.depth ≤ Reader.maxDepth →
          ∃ t', read t.toRef.text = .ok t' ∧ t'.unplaced = t.unplaced) ∧
        ∀ (t' : TypeExpr) name', t'.HasCore name' → IsName name' →
          t'.toRef.text = t.toRef.text → t'.unplaced = t.unplaced) := by
  refine ⟨fun ws proper name => ⟨_, wrappers_wrap ⟨name, .unknown⟩ proper⟩, fun t name core => ?_⟩
  refine ⟨proper_wrappers t, toRef_describes core, fun named => ?_⟩
  have named : IsName t.core.1.text := (hasCore_iff.1 core).symm ▸ named
  refine ⟨fun levels fits => exists_readTo_text named fits, fun fits => ?_, ?_⟩
  · rw [← readTo_maxDepth]
    exact exists_readTo_text named fits
  · intro t' name' core' named' same
    exact unplaced_eq_of_text ((hasCore_iff.1 core').symm ▸ named') named same

/-- A required list of lists of required numbers: its reference, and the way back from its text. -/
theorem toRef_faithful_nested :
    let t : TypeExpr := .list ⟨1, 1⟩ (.list ⟨1, 2⟩ (.named ⟨"Int", ⟨1, 3⟩⟩ true) false) true
    let elsewhere : TypeExpr := .list ⟨7, 5⟩ (.list ⟨7, 6⟩ (.named ⟨"Int", ⟨7, 7⟩⟩ true) false) true
    (∃ t' : TypeExpr, t'.wrappers = t.wrappers ∧ t'.HasCore "Int") ∧
    t.wrappers = [.nonNull, .list, .list, .nonNull] ∧
    t.toRef = ⟨"Int", false, 2, some false, "[[Int!]]!"⟩ ∧
    t.toRef.Describes t.wrappers "Int" ∧
    (∃ t', readTo 2 "[[Int!]]!" = .ok t' ∧ t'.unplaced = t.unplaced) ∧
    (∃ t', read "[[Int!]]!" = .ok t' ∧ t'.unplaced = t.unplaced) ∧
    elsewhere.unplaced = t.unplaced := by
  intro t elsewhere
  obtain ⟨every, faithful⟩ := toRef_faithful
  obtain ⟨proper, describes, way_back⟩ := faithful t "Int" (.list (.list (.named rfl)))
  obtain ⟨to_levels, to_limit, only⟩ := way_back (by decide)
  refine ⟨every t.wrappers proper "Int", rfl, rfl, describes, to_levels 2 le_rfl,
    to_limit (by decide), ?_⟩
  exact only elsewhere "Int" (.list (.list (.named rfl))) (by decide) rfl

end Sdl.TypeExpr

end SchemaLint

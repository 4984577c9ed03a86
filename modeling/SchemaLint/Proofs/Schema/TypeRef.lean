import Mathlib
import SchemaLint.Schema.TypeRef

/-!
# References and types

The reference that a type stands for keeps the name at its core and all its wrappers, and nothing of
its positions: two types stand for one reference just if they differ in positions only.
-/

namespace SchemaLint.Sdl.TypeExpr

variable {t t' : TypeExpr}

/-! ## Parts -/

/-- Number of lists around the core. -/
def depth : TypeExpr → Nat
  | named .. => 0
  | list _ item _ => item.depth + 1

/-- What is left when all lists are taken off is the core, and each of them has been counted. -/
lemma unwrap_eq (t : TypeExpr) (n : Nat) : t.unwrap n = (t.core.1, !t.core.2, n + t.depth) := by
  induction t generalizing n with
  | named _ _ => rfl
  | list _ item _ ih => rw [unwrap, ih, core, depth, Nat.add_assoc, Nat.add_comm 1]

/-- The reference that a type stands for, by its core and the number of its lists. -/
lemma toRef_eq (t : TypeExpr) :
    t.toRef = ⟨t.core.1.text, !t.required, t.depth,
      if t.depth = 0 then none else some !t.core.2, t.text⟩ := by
  rw [toRef, unwrap_eq, Nat.zero_add]

/-- A reference names what is at the core of its type. -/
@[simp] lemma toRef_name (t : TypeExpr) : t.toRef.name = t.core.1.text := by rw [toRef_eq]

/-- A reference counts the lists of its type. -/
@[simp] lemma toRef_depth (t : TypeExpr) : t.toRef.depth = t.depth := by rw [toRef_eq]

/-- A reference is nullable if its type carries no mark. -/
@[simp] lemma toRef_nullable (t : TypeExpr) : t.toRef.nullable = !t.required := by rw [toRef_eq]

/-- A reference to a list tells whether the core is nullable. -/
@[simp] lemma toRef_elementNullable (t : TypeExpr) :
    t.toRef.elementNullable = if t.depth = 0 then none else some !t.core.2 := by
  rw [toRef_eq]

/-- A reference keeps the text of its type. -/
@[simp] lemma toRef_text (t : TypeExpr) : t.toRef.text = t.text := rfl

/-! ## Positions -/

/-- The core of a type loses its position with it. -/
@[simp] lemma core_unplaced (t : TypeExpr) : t.unplaced.core = (t.core.1.unplaced, t.core.2) := by
  induction t with
  | named _ _ => rfl
  | list _ _ _ ih => exact ih

/-- A type has as many levels without positions. -/
@[simp] lemma depth_unplaced (t : TypeExpr) : t.unplaced.depth = t.depth := by
  induction t with
  | named _ _ => rfl
  | list _ _ _ ih => exact congrArg (· + 1) ih

/-- A type is written the same without positions. -/
@[simp] lemma text_unplaced (t : TypeExpr) : t.unplaced.text = t.text := by
  induction t with
  | named _ _ => rfl
  | list _ item required ih =>
    exact congrArg (fun text => "[" ++ text ++ if required then "]!" else "]") ih

/-- A type is required with or without positions. -/
@[simp] lemma required_unplaced (t : TypeExpr) : t.unplaced.required = t.required := by
  cases t <;> rfl

/-- A type without positions stands nowhere. -/
@[simp] lemma position_unplaced (t : TypeExpr) : t.unplaced.position = .unknown := by
  cases t <;> rfl

/-- A type refers to the same without positions. -/
@[simp] lemma toRef_unplaced (t : TypeExpr) : t.unplaced.toRef = t.toRef := by
  simp [toRef_eq, Ident.unplaced]

/-! ## Wrappers -/

/-- The mark behind a name tells whether the name is required. -/
lemma required_eq_of_append_eq {text : String} {required required' : Bool}
    (eq : (text ++ if required then "!" else "") = text ++ if required' then "!" else "") :
    required = required' := by
  have mark := (String.append_right_inj text).1 eq
  cases required <;> cases required' <;> simp at mark ⊢

/-- The end of a list tells whether the list is required, and so what is in the list. -/
lemma eq_of_append_bracket_eq {text text' : String} {required required' : Bool}
    (eq : (text ++ if required then "]!" else "]") = text' ++ if required' then "]!" else "]") :
    required = required' ∧ text = text' := by
  have last := congrArg (·.toList.getLast?) eq
  have same : required = required' := by
    cases required <;> cases required' <;> simp at last ⊢
  subst same
  exact ⟨rfl, (String.append_left_inj _).1 eq⟩

/-- The name at the core, the number of lists and the text tell a type, but for its positions. -/
lemma unplaced_eq_of_text_eq (core : t.core.1.text = t'.core.1.text) (depth : t.depth = t'.depth)
    (text : t.text = t'.text) : t.unplaced = t'.unplaced := by
  induction t generalizing t' with
  | named name required =>
    cases t' with
    | list _ _ _ => cases depth
    | named name' required' =>
      have core : name.text = name'.text := core
      rw [TypeExpr.text, TypeExpr.text, core] at text
      rw [unplaced, unplaced, Ident.unplaced, Ident.unplaced, core, required_eq_of_append_eq text]
  | list bracket item required ih =>
    cases t' with
    | named _ _ => cases depth
    | list bracket' item' required' =>
      rw [TypeExpr.text, TypeExpr.text, String.append_assoc, String.append_assoc,
        String.append_right_inj] at text
      obtain ⟨same, inner⟩ := eq_of_append_bracket_eq text
      have core : item.core.1.text = item'.core.1.text := core
      have depth : item.depth = item'.depth := Nat.succ.inj depth
      rw [unplaced, unplaced, same, ih core depth inner]

/-- Types stand for one reference just if they differ in positions only. -/
lemma toRef_eq_iff : t.toRef = t'.toRef ↔ t.unplaced = t'.unplaced := by
  constructor
  · intro same
    refine unplaced_eq_of_text_eq ?_ ?_ (congrArg TypeRef.text same)
    · simpa using congrArg TypeRef.name same
    · simpa using congrArg TypeRef.depth same
  · intro same
    rw [← toRef_unplaced t, same, toRef_unplaced]

/-! ## Texts -/

/-- The brackets that open some lists. -/
def opening (n : Nat) : String := String.ofList (List.replicate n '[')

/-- The mark behind the named type at the core. -/
def coreMark (t : TypeExpr) : String := if t.core.2 then "!" else ""

/-- What closes the lists of a type: a bracket for each, with its mark. -/
def closing : TypeExpr → String
  | named .. => ""
  | list _ item required => item.closing ++ if required then "]!" else "]"

/-- One more level has one more bracket. -/
lemma opening_succ (n : Nat) : opening (n + 1) = "[" ++ opening n := by
  rw [opening, opening, List.replicate_succ, ← List.singleton_append, String.ofList_append]

/-- The text of a type is its name with its mark, between the brackets of its lists. -/
lemma text_eq (t : TypeExpr) :
    t.text = opening t.depth ++ t.core.1.text ++ (t.coreMark ++ t.closing) := by
  induction t with
  | named name required =>
    rw [closing, String.append_empty]
    exact congrArg (· ++ _) String.empty_append.symm
  | list bracket item required ih =>
    have inner : (list bracket item required).coreMark = item.coreMark := rfl
    rw [text, ih, depth, opening_succ, inner, closing, core]
    simp only [String.append_assoc]

/-- What closes a list starts with a bracket. -/
lemma exists_closing (list : 0 < t.depth) : ∃ more, t.closing = "]" ++ more := by
  induction t with
  | named _ _ => cases list
  | list bracket item required ih =>
    rw [closing]
    cases item with
    | named _ _ =>
      refine ⟨if required then "!" else "", ?_⟩
      cases required <;> rfl
    | list _ _ _ =>
      obtain ⟨more, eq⟩ := ih (Nat.succ_pos _)
      exact ⟨_, by rw [eq, String.append_assoc]⟩

/-- The text of a list shows that the core and the list itself are marked, whatever stands between
the two marks. -/
lemma exists_text_eq_iff (list : 0 < t.depth) :
    (∃ between, t.text = opening t.depth ++ t.core.1.text ++ ("!" ++ between ++ "]!")) ↔
      t.core.2 ∧ t.required := by
  cases t with
  | named _ _ => cases list
  | list bracket item required =>
    simp only [text_eq, String.append_right_inj]
    constructor
    · rintro ⟨between, eq⟩
      rw [coreMark] at eq
      cases marked : (TypeExpr.list bracket item required).core.2 with
      | true =>
        rw [marked, if_pos rfl, String.append_assoc, String.append_right_inj, closing] at eq
        have ends : _ = between ++ if true then "]!" else "]" := eq
        exact ⟨rfl, (eq_of_append_bracket_eq ends).1⟩
      | false =>
        -- a bracket stands in the place of the mark
        obtain ⟨more, close⟩ := exists_closing list
        rw [marked, close] at eq
        have head := congrArg (·.toList.head?) eq
        simp at head
    · rintro ⟨marked, must⟩
      obtain rfl : required = true := must
      refine ⟨item.closing, ?_⟩
      rw [coreMark, marked, closing, if_pos rfl, if_pos rfl, String.append_assoc]

/-- In one list, nothing stands between the two marks. -/
lemma text_eq_iff (single : t.depth = 1) :
    t.text = "[" ++ t.core.1.text ++ "!]!" ↔ t.core.2 ∧ t.required := by
  constructor
  · intro eq
    rw [← exists_text_eq_iff (by omega), single]
    exact ⟨"", eq⟩
  · rintro ⟨marked, must⟩
    cases t with
    | named _ _ => cases single
    | list bracket item required =>
      cases item with
      | list _ _ _ => cases single
      | named name mark =>
        obtain rfl : mark = true := marked
        obtain rfl : required = true := must
        have ends : "!" ++ "]!" = "!]!" := rfl
        rw [text, text, if_pos rfl, if_pos rfl, ← ends]
        simp only [String.append_assoc]
        rfl

end SchemaLint.Sdl.TypeExpr

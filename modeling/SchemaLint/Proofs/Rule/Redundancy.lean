import Mathlib
import SchemaLint.Judgement
import SchemaLint.Schema.Build

/-!
# Fields that repeat the name of a type

The judgement by names asks first whether a field repeats its owner and then whether it repeats its own
type. That a field may be called like its type spares it the second question only. So the judgement is
the one that spares it both, but for fields that are called like their type and repeat their owner:
`Judgement.repeatsByName_eq`.
-/

namespace SchemaLint

/-! ## Parts of a text -/

namespace Text

variable {part cs : List Char}

/-- A part is found in a text if it stands somewhere in it, by induction on the text. -/
lemma isSome_findFrom_iff (offset : Nat) : (findFrom part offset cs).isSome ↔ part <:+: cs := by
  induction cs generalizing offset with
  | nil =>
    rw [findFrom, List.infix_nil, ← List.isEmpty_iff]
    cases part.isEmpty <;> simp
  | cons c cs ih =>
    rw [findFrom, List.infix_cons_iff, ← List.isPrefixOf_iff_prefix, ← ih (offset + 1)]
    cases part.isPrefixOf (c :: cs) <;> simp

/-- A part is found in a text just if it stands somewhere in it. -/
lemma isSome_find?_iff : (find? part cs).isSome ↔ part <:+: cs := isSome_findFrom_iff 0

end Text

namespace Judgement

variable {allowed : List String} {table : Table} {f : Field} {part name type : String}

/-! ## Questions of the judgement -/

/-- The name of a type has three letters or more and stands somewhere in another name, letter case
aside. -/
def RepeatedIn (type name : String) : Prop :=
  3 ≤ type.length ∧ (Unicode.lower type).toList <:+: (Unicode.lower name).toList

/-- The field is of a root type, or its name is allowed. -/
def Exempt (allowed : List String) (table : Table) (f : Field) : Prop :=
  table.isRoot f.owner ∨ f.name ∈ allowed

/-- The field is called like its type, which is not built in, or like the plural of it, letter case
aside. -/
def CalledAfterType (f : Field) : Prop :=
  f.type.name ∉ builtinScalars ∧
    (Unicode.lower f.name = Unicode.lower f.type.name ∨
      Unicode.lower f.name = Unicode.lower (Word.plural f.type.name))

/-- The field is called like its type and repeats its owner, and nothing exempts it. -/
def Clashes (allowed : List String) (table : Table) (f : Field) : Prop :=
  ¬Exempt allowed table f ∧ CalledAfterType f ∧ RepeatedIn f.owner f.name

instance : Decidable (RepeatedIn type name) := inferInstanceAs (Decidable (_ ∧ _))

instance : Decidable (Exempt allowed table f) := inferInstanceAs (Decidable (_ ∨ _))

instance : Decidable (CalledAfterType f) := inferInstanceAs (Decidable (_ ∧ _))

instance : Decidable (Clashes allowed table f) := inferInstanceAs (Decidable (_ ∧ _))

/-- What the field repeats if it may be called like its type, whatever its owner is called: the owner
before the type, which must not be built in. -/
def repeatsUnlessCalled (allowed : List String) (table : Table) (f : Field) : Option String :=
  if Exempt allowed table f ∨ CalledAfterType f then none
  else if RepeatedIn f.owner f.name then some f.owner
  else if f.type.name ∉ builtinScalars ∧ RepeatedIn f.type.name f.name then some f.type.name
  else none

/-- The test for a part of a name finds parts that the name repeats. -/
lemma occursIn_iff : occursIn part name ↔ RepeatedIn part name := by
  rw [occursIn, Bool.and_eq_true, decide_eq_true_iff, Text.isSome_find?_iff, RepeatedIn]

/-- Of several types, the first one that the name repeats is found. -/
lemma find?_occursIn_cons {types : List String} :
    (type :: types).find? (occursIn · name) =
      if RepeatedIn type name then some type else types.find? (occursIn · name) := by
  by_cases repeated : RepeatedIn type name
  · rw [if_pos repeated]
    exact List.find?_cons_of_pos (occursIn_iff.2 repeated)
  · rw [if_neg repeated]
    exact List.find?_cons_of_neg (mt occursIn_iff.1 repeated)

/-- The test for exempt fields finds those that are allowed by name, or that belong to a root. -/
lemma exempt_iff : allowed.contains f.name || table.isRoot f.owner ↔ Exempt allowed table f := by
  rw [Bool.or_eq_true, List.contains_iff_mem, Exempt, or_comm]

/-- The type is not asked for if it is built in, is the owner, or gives the field its name. -/
lemma spared_iff :
    builtinScalars.contains f.type.name || f.type.name == f.owner || isCalledAfter f.name f.type.name ↔
      f.type.name ∈ builtinScalars ∨ f.type.name = f.owner ∨ CalledAfterType f := by
  rw [isCalledAfter, Bool.or_eq_true, Bool.or_eq_true, Bool.or_eq_true, List.contains_iff_mem,
    beq_iff_eq, beq_iff_eq, beq_iff_eq, or_assoc, CalledAfterType]
  by_cases builtin : f.type.name ∈ builtinScalars
  · simp [builtin]
  · simp [builtin]

/-! ## Answers of the judgement -/

/-- An exempt field repeats nothing. -/
lemma repeatsByName_of_exempt (exempt : Exempt allowed table f) :
    repeatsByName allowed table f = none := if_pos (exempt_iff.2 exempt)

/-- The owner is asked for whatever the field is called, and the type is not asked for if the field is
called like it. -/
lemma repeatsByName_of_not_exempt (other : ¬Exempt allowed table f) :
    repeatsByName allowed table f =
      if RepeatedIn f.owner f.name then some f.owner
      else if f.type.name ∉ builtinScalars ∧ ¬CalledAfterType f ∧ RepeatedIn f.type.name f.name then
        some f.type.name
      else none := by
  rw [repeatsByName, if_neg (mt exempt_iff.1 other)]
  dsimp only
  rw [find?_occursIn_cons]
  by_cases owner : RepeatedIn f.owner f.name
  · rw [if_pos owner, if_pos owner]
  rw [if_neg owner, if_neg owner]
  by_cases spared : f.type.name ∈ builtinScalars ∨ f.type.name = f.owner ∨ CalledAfterType f
  · have nothing : ¬(f.type.name ∉ builtinScalars ∧ ¬CalledAfterType f ∧
        RepeatedIn f.type.name f.name) := by
      rintro ⟨not_builtin, other, repeated⟩
      rcases spared with builtin | same | called
      · exact not_builtin builtin
      · exact owner (same ▸ repeated)
      · exact other called
    rw [if_pos (spared_iff.2 spared), if_neg nothing, List.find?_nil]
  · rw [if_neg (mt spared_iff.1 spared), find?_occursIn_cons, List.find?_nil]
    rw [not_or, not_or] at spared
    obtain ⟨not_builtin, -, other⟩ := spared
    exact if_congr (by simp only [not_builtin, other, not_false_eq_true, true_and]) rfl rfl

/-- The judgement by names lets a field be called like its type, except one that is called so and
repeats its owner too: its answer is the owner then. -/
theorem repeatsByName_eq (allowed : List String) (table : Table) (f : Field) :
    (repeatsByName allowed table f =
      if Clashes allowed table f then some f.owner else repeatsUnlessCalled allowed table f) ∧
    (repeatsByName allowed table f = repeatsUnlessCalled allowed table f ↔
      ¬Clashes allowed table f) := by
  have answer : repeatsByName allowed table f =
      if Clashes allowed table f then some f.owner else repeatsUnlessCalled allowed table f := by
    by_cases exempt : Exempt allowed table f
    · have no_clash : ¬Clashes allowed table f := fun clash => clash.1 exempt
      rw [if_neg no_clash, repeatsUnlessCalled, if_pos (.inl exempt)]
      exact repeatsByName_of_exempt exempt
    rw [repeatsByName_of_not_exempt exempt]
    by_cases called : CalledAfterType f
    · have no_answer : repeatsUnlessCalled allowed table f = none := if_pos (.inr called)
      have no_type : ¬(f.type.name ∉ builtinScalars ∧ ¬CalledAfterType f ∧
          RepeatedIn f.type.name f.name) := fun all => all.2.1 called
      rw [no_answer, if_neg no_type]
      exact if_congr (by simp only [Clashes, exempt, called, not_false_eq_true, true_and]) rfl rfl
    · have no_clash : ¬Clashes allowed table f := fun clash => called clash.2.1
      rw [if_neg no_clash, repeatsUnlessCalled, if_neg (not_or.2 ⟨exempt, called⟩)]
      simp only [called, not_false_eq_true, true_and]
  refine ⟨answer, ?_⟩
  rw [answer]
  constructor
  · intro same clash
    rw [if_pos clash, repeatsUnlessCalled, if_pos (.inr clash.2.1)] at same
    cases same
  · intro no_clash
    exact if_neg no_clash

/-- A document with a field that is called like its type, the name of which starts with that of its
owner. -/
def dateDocument : Sdl.Document where
  definitions := [
    .type false ⟨"Date", ⟨1, 6⟩⟩ (.object []
      [⟨⟨"dateRange", ⟨1, 13⟩⟩, [], .named ⟨"DateRange", ⟨1, 24⟩⟩ false⟩]),
    .type false ⟨"DateRange", ⟨2, 6⟩⟩ (.object []
      [⟨⟨"id", ⟨2, 18⟩⟩, [], .named ⟨"ID", ⟨2, 22⟩⟩ true⟩])]
  origin := none

/-- Not every field that is called like its type is exempt: `dateRange` repeats the name of its owner
`Date` as well. -/
theorem repeatsByName_dateRange :
    ¬∀ (d : Sdl.Document) (table : Table) (f : Field), Table.build d none = .ok table →
      .field f ∈ table.entities → CalledAfterType f → repeatsByName [] table f = none := by
  intro exempt
  have answer := exempt dateDocument
    (.ofTypes dateDocument.types dateDocument.roots "<schema>")
    ⟨"dateRange", "Date", ⟨"DateRange", true, 0, none, "DateRange"⟩, [], ⟨1, 13⟩⟩ rfl
    (by decide +kernel) (by decide +kernel)
  exact absurd answer (by decide +kernel)

end Judgement

end SchemaLint

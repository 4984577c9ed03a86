import Mathlib
import SchemaLint.Proofs.Rule.Findings
import SchemaLint.Proofs.Rule.RootFields
import SchemaLint.Proofs.Schema.Written
import SchemaLint.Proofs.Word.Suffix
import SchemaLint.Rule.Mutations

/-!
# Results of mutations

What can be wrong with the result of a mutation is one of four faults, of which the last two are about
an object type that the mutation returns. The rule reports a mutation with a fault once and lists its
faults in a fixed order: `Rule.mutationResultShape_reports`. A root type that is of mutations and of an
operation before them has no mutations for the rule.
-/

namespace SchemaLint

open Rule (isErrorList resultProblems)

/-! ## Faults -/

/-- The field returns the object type, and not a list of it. -/
structure Returns (table : Table) (f : Field) (t : TypeDef) : Prop where
  mem : t ∈ table.types
  name_eq : t.name = f.type.name
  object : t.kind = .object
  single : f.type.depth = 0

/-- The type has a field `success` of the type `Boolean!`. -/
def TypeDef.TellsSuccess (t : TypeDef) : Prop :=
  ∃ x ∈ t.fields, x.name = "success" ∧ x.type = .required "Boolean"

/-- The field is a list that is not null, at the core of which is a type of errors. -/
structure Field.ListsErrors (table : Table) (x : Field) : Prop where
  list : 0 < x.type.depth
  required : x.type.nullable = false
  errors : ∃ u ∈ table.types, u.name = x.type.name ∧
    (u.kind = .object ∨ u.kind = .interface ∨ u.kind = .union) ∧ ∃ front, u.name = front ++ "Error"

/-- The type has a field `errors` that lists errors. -/
def TypeDef.TellsErrors (table : Table) (t : TypeDef) : Prop :=
  ∃ x ∈ t.fields, x.name = "errors" ∧ x.ListsErrors table

/-- What can be wrong with the result of a mutation. -/
inductive ResultFault where
  | nullable | noObject | noSuccess | noErrors
  deriving DecidableEq

namespace ResultFault

/-- All faults in the order in which they are told. -/
def all : List ResultFault := [nullable, noObject, noSuccess, noErrors]

/-- What is told about a fault of the field. -/
def text (f : Field) : ResultFault → String
  | nullable => s!"result type '{f.type.text}' should be non-null"
  | noObject => s!"should return a single object type, not '{f.type.text}'"
  | noSuccess => s!"'{f.type.name}' should have a 'success: Boolean!' field"
  | noErrors => s!"'{f.type.name}' should have an 'errors: [Error!]!' field"

/-- The field has the fault. -/
def Holds (table : Table) (f : Field) : ResultFault → Prop
  | nullable => f.type.nullable
  | noObject => ¬∃ t, Returns table f t
  | noSuccess => ∃ t, Returns table f t ∧ ¬t.TellsSuccess
  | noErrors => ∃ t, Returns table f t ∧ ¬t.TellsErrors table

end ResultFault

/-! ## What the check looks up -/

section
variable {table : Table} {t : TypeDef} {f x : Field}

namespace Table.WellFormed

variable (wf : table.WellFormed)
include wf

/-- The type of a name is the one in the table that has it. -/
lemma get?_eq_some_iff {name : String} : table.get? name = some t ↔ t ∈ table.types ∧ t.name = name :=
  find?_key_eq_some_iff wf.typesDistinct

/-- A test of kinds that scalars do not pass is one of the types of the table. -/
lemma any_kindOf?_iff {p : TypeKind → Bool} (scalar : p .scalar = false) {name : String} :
    (table.kindOf? name).any p ↔ ∃ u ∈ table.types, u.name = name ∧ p u.kind := by
  rw [Table.kindOf?]
  cases found : table.get? name with
  | none =>
    refine iff_of_false ?_ ?_
    · dsimp only
      split
      · simp [scalar]
      · simp
    · rintro ⟨u, mem, same, -⟩
      rw [wf.get?_eq_some_iff.2 ⟨mem, same⟩] at found
      cases found
  | some t =>
    obtain ⟨mem, same⟩ := wf.get?_eq_some_iff.1 found
    constructor
    · intro kind
      exact ⟨t, mem, same, kind⟩
    · rintro ⟨u, memU, sameU, kind⟩
      rw [wf.get?_eq_some_iff.2 ⟨memU, sameU⟩] at found
      cases found
      exact kind

/-- The test for a list of errors finds such lists. -/
lemma isErrorList_iff : isErrorList table x ↔ x.ListsErrors table := by
  rw [isErrorList, Bool.and_eq_true, Bool.and_eq_true, Bool.and_eq_true, wf.any_kindOf?_iff rfl,
    Word.endsWith_iff, TypeRef.isList, decide_eq_true_iff, Bool.not_eq_true']
  simp only [Bool.or_eq_true, beq_iff_eq, or_assoc]
  constructor
  · rintro ⟨⟨⟨list, required⟩, u, mem, same, kind⟩, ends⟩
    exact ⟨list, required, u, mem, same, kind, same ▸ ends⟩
  · rintro ⟨list, required, u, mem, same, kind, ends⟩
    exact ⟨⟨⟨list, required⟩, u, mem, same, kind⟩, same ▸ ends⟩

/-- The test for a field of errors finds types that tell their errors. -/
lemma tellsErrors_iff (mem : t ∈ table.types) :
    (t.field? "errors").any (isErrorList table) ↔ t.TellsErrors table := by
  rw [TypeDef.field?, any_find?_key_iff (wf.types t mem).fieldsDistinct]
  simp only [wf.isErrorList_iff]
  rfl

/-- The test for a field of success finds types that tell their success. -/
lemma tellsSuccess_iff (mem : t ∈ table.types) (written : ∀ x ∈ t.fields, x.Written) :
    (t.field? "success").any (·.type.isRequired "Boolean") ↔ t.TellsSuccess := by
  rw [TypeDef.field?, any_find?_key_iff (wf.types t mem).fieldsDistinct]
  refine exists_congr fun x => and_congr_right fun memX => ?_
  rw [(written x memX).type.isRequired_iff]

/-- A field returns one object type at most, and this is looked up by its name. -/
lemma returns_iff :
    Returns table f t ↔ table.get? f.type.name = some t ∧ f.type.isList = false ∧ t.kind = .object := by
  have single : f.type.isList = false ↔ f.type.depth = 0 := by simp [TypeRef.isList]
  rw [wf.get?_eq_some_iff, single]
  constructor
  · rintro ⟨mem, same, object, single⟩
    exact ⟨⟨mem, same⟩, single, object⟩
  · rintro ⟨⟨mem, same⟩, single, object⟩
    exact ⟨mem, same, object, single⟩

end Table.WellFormed

/-- A field that returns an object type has the faults that this has. -/
lemma Returns.holds_iff (wf : table.WellFormed) (returns : Returns table f t) :
    ¬ResultFault.noObject.Holds table f ∧
    (ResultFault.noSuccess.Holds table f ↔ ¬t.TellsSuccess) ∧
    (ResultFault.noErrors.Holds table f ↔ ¬t.TellsErrors table) := by
  have unique : ∀ u, Returns table f u ↔ u = t := by
    intro u
    constructor
    · intro other
      have found := (wf.returns_iff.1 returns).1
      rw [(wf.returns_iff.1 other).1] at found
      exact Option.some.inj found
    · rintro rfl
      exact returns
  refine ⟨not_not.2 ⟨t, returns⟩, ?_, ?_⟩
  · simp only [ResultFault.Holds, unique, exists_eq_left]
  · simp only [ResultFault.Holds, unique, exists_eq_left]

/-- What is wrong with a result is listed in a fixed order. -/
lemma ResultFault.map_filter_all {β : Type} (p : ResultFault → Bool) (g : ResultFault → β) :
    (all.filter p).map g =
      (if p nullable then [g nullable] else []) ++ ((if p noObject then [g noObject] else []) ++
        ((if p noSuccess then [g noSuccess] else []) ++ if p noErrors then [g noErrors] else [])) := by
  simp only [all, List.filter_cons, List.filter_nil]
  split_ifs <;> rfl

/-- That a field returns no object type is told as one problem. -/
lemma resultProblems_of_not_returns (wf : table.WellFormed) (other : ¬∃ t, Returns table f t) :
    resultProblems table f =
      (if f.type.nullable then [ResultFault.nullable.text f] else []) ++
        [ResultFault.noObject.text f] := by
  rw [resultProblems]
  refine congrArg₂ (· ++ ·) rfl ?_
  cases found : table.get? f.type.name with
  | none => rfl
  | some t =>
    refine if_pos ?_
    by_contra one
    rw [Bool.or_eq_true, not_or, Bool.not_eq_true, decide_eq_true_iff, not_not] at one
    exact other ⟨t, wf.returns_iff.2 ⟨found, one⟩⟩

/-- Of a field that returns an object type it is told what this lacks. -/
lemma Returns.resultProblems_eq (wf : table.WellFormed) (returns : Returns table f t) :
    resultProblems table f =
      (if f.type.nullable then [ResultFault.nullable.text f] else []) ++
        ((if (t.field? "success").any (·.type.isRequired "Boolean") then []
          else [ResultFault.noSuccess.text f]) ++
          if (t.field? "errors").any (isErrorList table) then []
          else [ResultFault.noErrors.text f]) := by
  obtain ⟨found, single, object⟩ := wf.returns_iff.1 returns
  have one : ¬(f.type.isList || decide (t.kind ≠ .object)) = true := by simp [single, object]
  rw [resultProblems, found]
  dsimp only
  rw [if_neg one, returns.name_eq]
  rfl

/-- The problems that are told are those of the faults that a field has, in their order. -/
lemma exists_resultProblems (wf : table.WellFormed)
    (written : ∀ t ∈ table.types, ∀ x ∈ t.fields, x.Written) (f : Field) :
    ∃ faults : List ResultFault, faults.Sublist ResultFault.all ∧
      (∀ x, x ∈ faults ↔ x.Holds table f) ∧ resultProblems table f = faults.map (·.text f) := by
  classical
  refine ⟨ResultFault.all.filter (·.Holds table f), List.filter_sublist, fun x => ?_, ?_⟩
  · have mem : x ∈ ResultFault.all := by cases x <;> decide
    rw [List.mem_filter, decide_eq_true_iff]
    exact and_iff_right mem
  rw [ResultFault.map_filter_all]
  simp only [decide_eq_true_iff]
  by_cases object : ∃ t, Returns table f t
  · obtain ⟨t, returns⟩ := object
    obtain ⟨some_object, success, errors⟩ := returns.holds_iff wf
    simp only [returns.resultProblems_eq wf,
      wf.tellsSuccess_iff returns.mem (written t returns.mem), wf.tellsErrors_iff returns.mem,
      if_neg some_object, success, errors, ite_not, List.nil_append]
    exact congrArg₂ (· ++ ·) (if_congr Iff.rfl rfl rfl) rfl
  · have no_success : ¬ResultFault.noSuccess.Holds table f := fun ⟨t, returns, _⟩ => object ⟨t, returns⟩
    have no_errors : ¬ResultFault.noErrors.Holds table f := fun ⟨t, returns, _⟩ => object ⟨t, returns⟩
    rw [resultProblems_of_not_returns wf object,
      if_pos (show ResultFault.noObject.Holds table f from object), if_neg no_success, if_neg no_errors]
    exact congrArg₂ (· ++ ·) (if_congr Iff.rfl rfl rfl) rfl

/-- A field without faults returns an object type that tells success and errors, and cannot be
null. -/
lemma forall_not_holds_iff (wf : table.WellFormed) (written : f.Written) :
    (∀ x : ResultFault, ¬x.Holds table f) ↔
      ∃ t ∈ table.types, t.kind = .object ∧ f.type = .required t.name ∧ t.TellsSuccess ∧
        t.TellsErrors table := by
  constructor
  · intro none
    obtain ⟨t, returns⟩ := not_not.1 (none .noObject)
    obtain ⟨-, success, errors⟩ := returns.holds_iff wf
    have required : f.type.isRequired t.name := by
      have marked : f.type.nullable = false := Bool.not_eq_true _ ▸ none .nullable
      simp [TypeRef.isRequired, TypeRef.isList, returns.single, returns.name_eq, marked]
    exact ⟨t, returns.mem, returns.object, written.type.isRequired_iff.1 required,
      not_not.1 (success.not.1 (none .noSuccess)), not_not.1 (errors.not.1 (none .noErrors))⟩
  · rintro ⟨t, mem, object, type, tells_success, tells_errors⟩
    have returns : Returns table f t := by
      refine ⟨mem, ?_, object, ?_⟩
      · rw [type]
        rfl
      · rw [type]
        rfl
    obtain ⟨some_object, success, errors⟩ := returns.holds_iff wf
    intro x
    cases x with
    | nullable =>
      rw [ResultFault.Holds, type]
      exact Bool.false_ne_true
    | noObject => exact some_object
    | noSuccess => exact success.not.2 (not_not.2 tells_success)
    | noErrors => exact errors.not.2 (not_not.2 tells_errors)

end

/-! ## Reports -/

namespace Rule

variable {context : Context} {f : Field}

/-- The problems of a field are told in one error about it. -/
lemma reported_mutationResultShape {problems : List String}
    (told : resultProblems context.table f = problems) :
    mutationResultShape.reported context (.field f) =
      if context.table.operationOf? f = some .mutation ∧ problems ≠ [] then
        let list := "; ".intercalate problems
        [⟨"MutationResultShape", .error, s!"Mutation '{f.name}' result: {list}",
          .ofEntity (.field f), none⟩]
      else [] := by
  have check : mutationResultShape.check? context (.field f) =
      if problems ≠ [] then
        let list := "; ".intercalate problems
        .one (.field f) s!"Mutation '{f.name}' result: {list}"
      else .nothing := by
    dsimp only [mutationResultShape, onRootFields, onFields, checkFields]
    rw [told]
    cases problems with
    | nil => rfl
    | cons problem problems => exact (if_pos (List.cons_ne_nil _ _)).symm
  by_cases any : problems ≠ []
  · have reported : mutationResultShape.reported context (.field f) = _ :=
      reported_onRootFields (check.trans (if_pos any))
    rw [reported]
    exact if_congr (and_congr_right' (iff_of_true rfl any)) rfl rfl
  · have reported : mutationResultShape.reported context (.field f) = _ :=
      reported_onRootFields (check.trans (if_neg any))
    rw [reported, List.map_nil, ite_self, if_neg fun fails => any fails.2]

/-- What is reported about a field of a table that is built of a document. The faults of the field are
told in their order, in one error about it, if it has any and counts for the mutation. It has none just
if it returns an object type of the table that has a field `success: Boolean!` and one, `errors`, that
lists errors. Nothing is reported about the fields of a root type of mutations that an operation before
has too. -/
theorem mutationResultShape_reports {d : Sdl.Document} {source : Option String} (context : Context)
    (built : Table.build d source = .ok context.table) (f : Field)
    (mem : .field f ∈ context.table.entities) :
    ∃ faults : List ResultFault, faults.Sublist ResultFault.all ∧
      (∀ x, x ∈ faults ↔ x.Holds context.table f) ∧
      (faults = [] ↔
        ∃ t ∈ context.table.types, t.kind = .object ∧ f.type = .required t.name ∧ t.TellsSuccess ∧
          t.TellsErrors context.table) ∧
      mutationResultShape.reported context (.field f) =
        if context.table.operationOf? f = some .mutation ∧ faults ≠ [] then
          let list := "; ".intercalate (faults.map (·.text f))
          [⟨"MutationResultShape", .error, s!"Mutation '{f.name}' result: {list}",
            .ofEntity (.field f), none⟩]
        else [] := by
  have wf := Table.wellFormed_of_build built
  obtain ⟨t, memT, memF⟩ := Table.field_mem_entities mem
  have written := Table.written_of_build built memT f memF
  obtain ⟨faults, sublist, holds, problems⟩ :=
    exists_resultProblems wf (fun _ => Table.written_of_build built) f
  refine ⟨faults, sublist, holds, ?_, ?_⟩
  · rw [← forall_not_holds_iff wf written, List.eq_nil_iff_forall_not_mem]
    simp only [holds]
  · rw [reported_mutationResultShape problems]
    exact if_congr (and_congr_right' (not_congr List.map_eq_nil_iff)) rfl rfl

/-- A mutation that may be null and returns a type to which `success` is added by an extension. Its
`errors` are no errors by name. -/
def noticeDocument : Sdl.Document where
  definitions := [
    .type false ⟨"Mutation", ⟨1, 6⟩⟩ (.object []
      [⟨⟨"updateUser", ⟨1, 17⟩⟩, [], .named ⟨"UserResult", ⟨1, 29⟩⟩ false⟩]),
    .type false ⟨"UserResult", ⟨2, 6⟩⟩ (.object []
      [⟨⟨"errors", ⟨2, 19⟩⟩, [], .list ⟨2, 27⟩ (.named ⟨"Notice", ⟨2, 28⟩⟩ true) true⟩]),
    .type false ⟨"Notice", ⟨3, 6⟩⟩ (.object []
      [⟨⟨"text", ⟨3, 15⟩⟩, [], .named ⟨"String", ⟨3, 21⟩⟩ false⟩]),
    .type true ⟨"UserResult", ⟨4, 13⟩⟩ (.object []
      [⟨⟨"success", ⟨4, 26⟩⟩, [], .named ⟨"Boolean", ⟨4, 35⟩⟩ true⟩])]
  origin := none

/-- What a rule looks at by default in the schema of the document. -/
def noticeContext : Context where
  table := .ofTypes noticeDocument.types noticeDocument.roots "<schema>"
  options := .default
  judgement := .ofNames []

/-- The first and the last fault are told. -/
theorem mutationResultShape_reports_notices :
    let f : Field :=
      ⟨"updateUser", "Mutation", ⟨"UserResult", true, 0, none, "UserResult"⟩, [], ⟨1, 17⟩⟩
    Table.build noticeDocument none = .ok noticeContext.table ∧
    .field f ∈ noticeContext.table.entities ∧
    mutationResultShape.reported noticeContext (.field f) =
      [⟨"MutationResultShape", .error,
        "Mutation 'updateUser' result: result type 'UserResult' should be non-null; " ++
          "'UserResult' should have an 'errors: [Error!]!' field",
        ⟨"Mutation", some "updateUser", none, 1, 17⟩, none⟩] := by
  intro f
  have built : Table.build noticeDocument none = .ok noticeContext.table := rfl
  have mem : .field f ∈ noticeContext.table.entities := by decide +kernel
  refine ⟨built, mem, ?_⟩
  obtain ⟨faults, sublist, holds, -, reported⟩ := mutationResultShape_reports noticeContext built f mem
  let t : TypeDef := ⟨"UserResult", .object,
    [⟨"errors", "UserResult", ⟨"Notice", false, 1, some false, "[Notice!]!"⟩, [], ⟨2, 19⟩⟩,
      ⟨"success", "UserResult", ⟨"Boolean", false, 0, none, "Boolean!"⟩, [], ⟨4, 26⟩⟩],
    [], [], [], ⟨2, 6⟩⟩
  have returns : Returns noticeContext.table f t := ⟨by decide +kernel, rfl, rfl, rfl⟩
  have wf := Table.wellFormed_of_build built
  obtain ⟨some_object, no_success, no_errors⟩ := returns.holds_iff wf
  have success : t.TellsSuccess :=
    (wf.tellsSuccess_iff returns.mem (Table.written_of_build built returns.mem)).1 (by decide +kernel)
  have errors : ¬t.TellsErrors noticeContext.table :=
    (wf.tellsErrors_iff returns.mem).not.1 (by decide +kernel)
  have known : ∀ faults ∈ ResultFault.all.sublists, .nullable ∈ faults → .noObject ∉ faults →
      .noSuccess ∉ faults → .noErrors ∈ faults → faults = [.nullable, .noErrors] := by decide
  have told : faults = [.nullable, .noErrors] := by
    refine known faults (List.mem_sublists.2 sublist) ((holds _).2 rfl) ?_ ?_ ?_
    · exact (holds _).not.2 some_object
    · exact (holds _).not.2 (no_success.not.2 (not_not.2 success))
    · exact (holds _).2 (no_errors.2 errors)
  rw [reported, told]
  decide +kernel

/-- A document whose only type is the root type of queries and mutations. -/
def sharedDocument : Sdl.Document where
  definitions := [
    .schema false ⟨1, 1⟩ [⟨.query, ⟨"R", ⟨1, 17⟩⟩⟩, ⟨.mutation, ⟨"R", ⟨1, 29⟩⟩⟩],
    .type false ⟨"R", ⟨2, 6⟩⟩ (.object []
      [⟨⟨"f", ⟨2, 10⟩⟩, [], .named ⟨"Int", ⟨2, 13⟩⟩ false⟩])]
  origin := none

/-- What a rule looks at by default in the schema of the document. -/
def sharedContext : Context where
  table := .ofTypes sharedDocument.types sharedDocument.roots "<schema>"
  options := .default
  judgement := .ofNames []

/-- Not every mutation whose result may be null is reported: its type may be the root type of queries
too, and then its fields count for these alone. -/
theorem mutationResultShape_silent_sharedRoot :
    ¬∀ (d : Sdl.Document) (context : Context) (f : Field),
      Table.build d none = .ok context.table → .field f ∈ context.table.entities →
      context.table.rootName? .mutation = some f.owner → f.type.nullable →
      mutationResultShape.reported context (.field f) ≠ [] := by
  intro told
  have reported := told sharedDocument sharedContext
    ⟨"f", "R", ⟨"Int", true, 0, none, "Int"⟩, [], ⟨2, 10⟩⟩ rfl (by decide +kernel) (by decide +kernel)
    rfl
  exact reported (by decide +kernel)

end Rule

end SchemaLint

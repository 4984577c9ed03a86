import Mathlib
import SchemaLint.Proofs.Rule.Findings
import SchemaLint.Proofs.Rule.RootFields
import SchemaLint.Proofs.Schema.Written
import SchemaLint.Proofs.Word.FirstWord
import SchemaLint.Rule.Mutations
import SchemaLint.Rule.Queries

/-!
# Arguments of root fields

Three rules ask for the arguments of a root field: of mutations that create and delete, which are told
by their names, and of queries that look one thing up by its id. Names are split into words and
references are reduced to a few parts for this, but what the rules report can be told by the texts of
names, the list of arguments and the types as they are written: `Rule.argumentRules_report`.
-/

namespace SchemaLint

namespace Rule

open Word (startsLower startsUpper isSmall verbAndObject)

variable {context : Context} {f : Field} {verb name type : String}

/-! ## Verbs -/

/-- A verb of small letters is what stands in front of a capital. -/
lemma hasVerb_iff (starts : startsLower verb) (small : isSmall verb) :
    hasVerb verb f ↔ ∃ x, startsUpper x ∧ f.name = verb ++ x := by
  have parts : hasVerb verb f ↔
      (verbAndObject f.name).1 = verb ∧ startsUpper (verbAndObject f.name).2 := by
    show (verbAndObject f.name).1 == verb && startsUpper (verbAndObject f.name).2 ↔ _
    rw [Bool.and_eq_true, beq_iff_eq]
  rw [parts, Word.verbAndObject_iff starts, and_iff_right small]

/-! ## Arguments -/

/-- The field takes one argument, of the name, and this asks for the type. -/
def takesOnly (f : Field) (name type : String) : Bool :=
  match f.arguments with
  | [a] => a.name == name && a.type.isRequired type
  | _ => false

/-- A field takes only one argument if this is all of its arguments, with the name and the type. -/
lemma takesOnly_iff (written : f.Written) :
    takesOnly f name type ↔
      ∃ a, f.arguments = [a] ∧ a.name = name ∧ a.type = .required type := by
  have arguments := written.arguments
  rw [takesOnly]
  cases args : f.arguments with
  | nil => simp
  | cons a rest =>
    cases rest with
    | nil =>
      have written : a.type.Written := arguments a (args ▸ List.mem_cons_self)
      rw [Bool.and_eq_true, beq_iff_eq, written.isRequired_iff]
      constructor
      · intro fits
        exact ⟨a, rfl, fits⟩
      · rintro ⟨a, ⟨⟩, fits⟩
        exact fits
    | cons b rest => simp

/-- Of arguments with different names, the one of a name is found. -/
lemma any_argument?_iff (distinct : (f.arguments.map (·.name)).Nodup) (written : f.Written) :
    (f.argument? name).any (·.type.isRequired type) ↔
      ∃ a ∈ f.arguments, a.name = name ∧ a.type = .required type := by
  rw [Field.argument?, any_find?_key_iff distinct]
  refine exists_congr fun a => and_congr_right fun mem => ?_
  rw [(written.arguments a mem).isRequired_iff]

/-! ## Reports -/

/-- The check of a creating mutation asks for one argument, the draft. -/
lemma check_createMutationShape (context : Context) (f : Field) :
    createMutationShape.check? context (.field f) =
      if takesOnly f "draft" ((verbAndObject f.name).2 ++ "Draft") then .nothing
      else createMutationShape.complain f ((verbAndObject f.name).2 ++ "Draft") := by
  have check : createMutationShape.check? context (.field f) =
      if f.arguments.length = 1 then f.arguments.head? >>= fun sole =>
        if sole.name == "draft" && sole.type.isRequired ((verbAndObject f.name).2 ++ "Draft") then
          Findings.nothing
        else createMutationShape.complain f ((verbAndObject f.name).2 ++ "Draft")
      else createMutationShape.complain f ((verbAndObject f.name).2 ++ "Draft") := rfl
  rw [check, takesOnly]
  cases f.arguments with
  | nil => rfl
  | cons a rest =>
    cases rest with
    | nil => rfl
    | cons b rest => exact if_neg (by simp)

/-- Creating mutations are told that do not take a draft only. -/
lemma createMutationShape_reportsIff_takesOnly :
    createMutationShape.ReportsIff context (.field f)
      (context.table.operationOf? f = some .mutation ∧ ∃ x, startsUpper x ∧ f.name = "create" ++ x ∧
        ¬takesOnly f "draft" (x ++ "Draft")) := by
  have reports : createMutationShape.ReportsIff context (.field f)
      (context.table.operationOf? f = some .mutation ∧ hasVerb "create" f ∧
        ¬takesOnly f "draft" ((verbAndObject f.name).2 ++ "Draft")) := by
    refine reportsIff_onRootFields (fun other => ?_) fun takes => ?_
    · exact ⟨_, _, (check_createMutationShape context f).trans (if_neg other)⟩
    · exact (check_createMutationShape context f).trans (if_pos (not_not.1 takes))
  refine reports.congr (and_congr_right' ?_)
  rw [hasVerb_iff (by decide) (by decide), ← exists_and_right]
  refine exists_congr fun x => ?_
  rw [and_assoc]
  refine and_congr_right fun upper => and_congr_right fun text => ?_
  have object : (verbAndObject f.name).2 = x := by
    rw [text, (Word.split_append (by decide) (by decide) upper).2]
  rw [object]

/-- Creating mutations are told unless their only argument is a draft that is required. -/
lemma createMutationShape_reportsIff (written : f.Written) :
    createMutationShape.ReportsIff context (.field f)
      (context.table.operationOf? f = some .mutation ∧ ∃ x, startsUpper x ∧ f.name = "create" ++ x ∧
        ¬∃ a, f.arguments = [a] ∧ a.name = "draft" ∧ a.type = .required (x ++ "Draft")) := by
  refine createMutationShape_reportsIff_takesOnly.congr ?_
  simp only [takesOnly_iff written]

/-- Deleting mutations are told unless one of their arguments is an id that is required. -/
lemma deleteMutationShape_reportsIff (distinct : (f.arguments.map (·.name)).Nodup)
    (written : f.Written) :
    deleteMutationShape.ReportsIff context (.field f)
      (context.table.operationOf? f = some .mutation ∧ (∃ x, startsUpper x ∧ f.name = "delete" ++ x) ∧
        ¬∃ a ∈ f.arguments, a.name = "id" ∧ a.type = .required "ID") := by
  rw [← hasVerb_iff (by decide) (by decide), ← any_argument?_iff distinct written]
  refine reportsIff_onRootFields (fun other => ?_) fun takes => ?_
  · exact ⟨_, _, if_neg other⟩
  · exact if_pos (not_not.1 takes)

/-- Look-ups are told if they are not nullable and their only argument is an id that is required. -/
lemma byIdQueryShape_reportsIff (written : f.Written) :
    byIdQueryShape.ReportsIff context (.field f)
      (context.table.operationOf? f = some .query ∧ f.type.isList = false ∧ f.type.nullable = false ∧
        ∃ a, f.arguments = [a] ∧ a.name = "id" ∧ a.type = .required "ID") := by
  have reports : byIdQueryShape.ReportsIff context (.field f)
      (context.table.operationOf? f = some .query ∧ isLookup f ∧ ¬f.type.nullable) := by
    refine reportsIff_onRootFields (fun other => ?_) fun nullable => ?_
    · exact ⟨_, _, if_neg other⟩
    · exact if_pos (not_not.1 nullable)
  have lookup : isLookup f ↔ f.type.isList = false ∧ takesOnly f "id" "ID" := by
    rw [← Bool.not_eq_true', ← Bool.and_eq_true]
    rfl
  refine reports.congr (and_congr_right' ?_)
  rw [lookup, takesOnly_iff written, Bool.not_eq_true, and_assoc]
  exact and_congr_right' and_comm

/-- What the rules about arguments report about a field of a table that is built of a document: one
error if the condition holds, and otherwise nothing. A mutation `createX` takes the draft and nothing
else, and a mutation `deleteX` an id among other things. A query of one thing, of which the only argument
is an id, may come back empty. -/
theorem argumentRules_report {d : Sdl.Document} {source : Option String} (context : Context)
    (built : Table.build d source = .ok context.table) (f : Field)
    (mem : .field f ∈ context.table.entities) :
    createMutationShape.ReportsIff context (.field f)
      (context.table.operationOf? f = some .mutation ∧ ∃ x, startsUpper x ∧ f.name = "create" ++ x ∧
        ¬∃ a, f.arguments = [a] ∧ a.name = "draft" ∧ a.type = .required (x ++ "Draft")) ∧
    deleteMutationShape.ReportsIff context (.field f)
      (context.table.operationOf? f = some .mutation ∧ (∃ x, startsUpper x ∧ f.name = "delete" ++ x) ∧
        ¬∃ a ∈ f.arguments, a.name = "id" ∧ a.type = .required "ID") ∧
    byIdQueryShape.ReportsIff context (.field f)
      (context.table.operationOf? f = some .query ∧ f.type.isList = false ∧ f.type.nullable = false ∧
        ∃ a, f.arguments = [a] ∧ a.name = "id" ∧ a.type = .required "ID") := by
  obtain ⟨t, memT, memF⟩ := Table.field_mem_entities mem
  have written := Table.written_of_build built memT f memF
  have distinct := (((Table.wellFormed_of_build built).types t memT).fields f memF).argumentsDistinct
  exact ⟨createMutationShape_reportsIff written, deleteMutationShape_reportsIff distinct written,
    byIdQueryShape_reportsIff written⟩

/-- A document with a query by an id, and mutations that create and delete. -/
def userDocument : Sdl.Document where
  definitions := [
    .type false ⟨"Query", ⟨1, 6⟩⟩ (.object []
      [⟨⟨"user", ⟨1, 14⟩⟩, [⟨⟨"id", ⟨1, 19⟩⟩, .named ⟨"ID", ⟨1, 23⟩⟩ true⟩],
        .named ⟨"Int", ⟨1, 29⟩⟩ true⟩]),
    .type false ⟨"Mutation", ⟨2, 6⟩⟩ (.object []
      [⟨⟨"createUser", ⟨2, 17⟩⟩, [⟨⟨"draft", ⟨2, 28⟩⟩, .named ⟨"UserDraft", ⟨2, 35⟩⟩ false⟩],
          .named ⟨"Int", ⟨2, 47⟩⟩ false⟩,
        ⟨⟨"deleteUser", ⟨3, 17⟩⟩,
          [⟨⟨"force", ⟨3, 28⟩⟩, .named ⟨"Boolean", ⟨3, 35⟩⟩ false⟩,
            ⟨⟨"id", ⟨3, 44⟩⟩, .named ⟨"ID", ⟨3, 48⟩⟩ true⟩],
          .named ⟨"Int", ⟨3, 54⟩⟩ false⟩]),
    .type false ⟨"UserDraft", ⟨4, 8⟩⟩ .scalar]
  origin := none

/-- What a rule looks at by default in the schema of the document. -/
def userContext : Context where
  table := .ofTypes userDocument.types userDocument.roots "<schema>"
  options := .default
  judgement := .ofNames []

/-- The draft may be null and the query may not, while the id is what it has to be. -/
theorem argumentRules_report_users :
    let byId : Field := ⟨"user", "Query", .required "Int",
      [⟨"id", .required "ID", "Query", "user", ⟨1, 19⟩⟩], ⟨1, 14⟩⟩
    let create : Field := ⟨"createUser", "Mutation", ⟨"Int", true, 0, none, "Int"⟩,
      [⟨"draft", ⟨"UserDraft", true, 0, none, "UserDraft"⟩, "Mutation", "createUser", ⟨2, 28⟩⟩],
      ⟨2, 17⟩⟩
    let delete : Field := ⟨"deleteUser", "Mutation", ⟨"Int", true, 0, none, "Int"⟩,
      [⟨"force", ⟨"Boolean", true, 0, none, "Boolean"⟩, "Mutation", "deleteUser", ⟨3, 28⟩⟩,
        ⟨"id", .required "ID", "Mutation", "deleteUser", ⟨3, 44⟩⟩],
      ⟨3, 17⟩⟩
    Table.build userDocument none = .ok userContext.table ∧
    (∀ f ∈ [byId, create, delete], .field f ∈ userContext.table.entities) ∧
    (∃ message fix, createMutationShape.reported userContext (.field create) =
      [⟨"CreateMutationShape", .error, message, ⟨"Mutation", some "createUser", none, 2, 17⟩, fix⟩]) ∧
    deleteMutationShape.reported userContext (.field delete) = [] ∧
    ∃ message fix, byIdQueryShape.reported userContext (.field byId) =
      [⟨"ByIdQueryShape", .error, message, ⟨"Query", some "user", none, 1, 14⟩, fix⟩] := by
  intro byId create delete
  have built : Table.build userDocument none = .ok userContext.table := rfl
  have mem : ∀ f ∈ [byId, create, delete], .field f ∈ userContext.table.entities := by decide +kernel
  refine ⟨built, mem, ?_, ?_, ?_⟩
  · refine (argumentRules_report userContext built create (mem _ (by simp))).1.one
      ⟨by decide +kernel, "User", by decide, rfl, ?_⟩
    rintro ⟨a, ⟨⟩, -, type⟩
    exact absurd type (by decide)
  · refine (argumentRules_report userContext built delete (mem _ (by simp))).2.1.nothing ?_
    exact fun reports => reports.2.2 ⟨_, List.mem_cons_of_mem _ List.mem_cons_self, rfl, rfl⟩
  · exact (argumentRules_report userContext built byId (mem _ (by simp))).2.2.one
      ⟨by decide +kernel, rfl, rfl, _, rfl, rfl, rfl⟩

end Rule

end SchemaLint

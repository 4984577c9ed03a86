import Mathlib
import SchemaLint.Proofs.Rule.InputNames
import SchemaLint.Proofs.Schema.Usages
import SchemaLint.Proofs.Schema.Wrappers

/-!
# Indexes of a table

A table is searched once, when it is built, for the arguments that refer to a type and for the types
that mutations return. What rules look up there later is what they would find on a walk over all
entities of the table. So the rule about filters tells of the first argument called `filter` that the
walk comes to: `Table.build_indexes`.
-/

namespace SchemaLint

open Sdl (Document)

/-- The argument, if the entity is one. -/
def Entity.argument? : Entity → Option Argument
  | .argument a => some a
  | _ => none

/-- The reference is read from a type with the name at its core. -/
def TypeRef.RefersTo (r : TypeRef) (name : String) : Prop :=
  ∃ t : Sdl.TypeExpr, r = t.toRef ∧ t.HasCore name

/-- The argument is called `filter` and refers to the type. -/
structure Argument.Filters (a : Argument) (t : TypeDef) : Prop where
  name : a.name = "filter"
  type : a.type.RefersTo t.name

/-- A reference that is written in a document refers to the type that it names. -/
lemma TypeRef.Written.refersTo_iff {r : TypeRef} (written : r.Written) {name : String} :
    r.RefersTo name ↔ r.name = name := by
  constructor
  · rintro ⟨t, rfl, core⟩
    exact (Sdl.TypeExpr.toRef_name t).trans (Sdl.TypeExpr.hasCore_iff.1 core)
  · rintro rfl
    obtain ⟨t, rfl⟩ := written
    exact ⟨t, rfl, Sdl.TypeExpr.hasCore_iff.2 (Sdl.TypeExpr.toRef_name t).symm⟩

/-- The rule about filters looks for usages of input types with certain names only. -/
lemma Rule.filterSuffix_scope_iff {t : TypeDef} :
    ((isReserved t.name = false ∧ t.kind = .input) ∧ Word.endsWith t.name "Filter" = false) ↔
      t.kind = .input ∧ (¬∃ rest, t.name = "__" ++ rest) ∧ ¬∃ front, t.name = front ++ "Filter" := by
  rw [← isReserved_iff, ← Word.endsWith_iff, Bool.not_eq_true, Bool.not_eq_true, and_assoc,
    and_left_comm]

namespace Table

variable {table : Table} {a : Argument}

/-- The arguments that a walk over the table comes to. -/
def arguments (table : Table) : List Argument := table.entities.filterMap Entity.argument?

/-- The walk comes to the arguments of one type after those of another. -/
lemma arguments_eq_flatMap (table : Table) :
    table.arguments = table.types.flatMap (·.arguments) := by
  have part (t : TypeDef) : t.entities.filterMap Entity.argument? = t.arguments := by
    rw [TypeDef.entities, TypeDef.arguments, List.filterMap_cons_none rfl, List.filterMap_flatMap]
    congr 1
    funext f
    rw [List.filterMap_cons_none rfl, List.filterMap_map]
    exact List.filterMap_some
  rw [arguments, entities, List.filterMap_flatMap]
  exact congrArg table.types.flatMap (funext part)

/-- No argument of a well-formed table is walked over twice. -/
lemma WellFormed.nodup_arguments (wf : table.WellFormed) : table.arguments.Nodup := by
  refine List.pairwise_filterMap.2 (wf.pairwise_apart.imp ?_)
  intro e e' apart b eq b' eq' same
  cases e <;> cases eq
  cases e' <;> cases eq'
  exact apart rfl (congrArg (fun a => (Location.ofEntity (.argument a)).names) same)

/-! ## Tables of documents -/

section
variable {d : Document} {source : Option String} {t : TypeDef} {name : String}
variable (built : Table.build d source = .ok table)
include built

/-- An argument of a table refers to the type that its reference names. -/
lemma refersTo_iff_of_mem_arguments (mem : a ∈ table.arguments) :
    a.type.RefersTo name ↔ a.type.name = name := by
  rw [arguments_eq_flatMap] at mem
  obtain ⟨t, memT, mem⟩ := List.mem_flatMap.1 mem
  obtain ⟨f, memF, memA⟩ := List.mem_flatMap.1 mem
  exact ((written_of_build built memT f memF).arguments a memA).refersTo_iff

/-- The usages of a type are the arguments that name it, in order. -/
lemma usagesOf_eq_filter (name : String) :
    table.usagesOf name = table.arguments.filter (·.type.name == name) := by
  obtain ⟨-, rfl⟩ := build_eq_ok_iff.1 built
  rw [arguments_eq_flatMap]
  exact usagesOf_ofTypes ..

/-- An argument filters by a type if it names the type and is called `filter`. -/
lemma filters_iff (mem : a ∈ table.arguments) :
    a.Filters t ↔ (a.type.name == t.name) = true ∧ (a.name == "filter") = true := by
  rw [beq_iff_eq, beq_iff_eq, ← refersTo_iff_of_mem_arguments built mem, and_comm]
  exact ⟨fun filters => ⟨filters.name, filters.type⟩, fun both => ⟨both.1, both.2⟩⟩

/-- The first usage that is called `filter` is the first argument of the walk that filters. -/
lemma find?_usagesOf_eq_some_iff :
    (table.usagesOf t.name).find? (·.name == "filter") = some a ↔
      ∃ before after, table.arguments = before ++ a :: after ∧ a.Filters t ∧
        ∀ b ∈ before, ¬b.Filters t := by
  rw [usagesOf_eq_filter built, List.find?_filter, List.find?_eq_some_iff_append]
  simp only [decide_eq_true_eq, Bool.not_eq_true', decide_eq_false_iff_not, ← exists_and_left]
  refine exists_congr fun before => exists_congr fun after => ?_
  rw [and_left_comm]
  refine and_congr_right fun walk => ?_
  have filters {b : Argument} (part : b ∈ before ++ a :: after) :=
    filters_iff (t := t) built (walk ▸ part)
  refine and_congr (filters (by simp)).symm (forall₂_congr fun b earlier => ?_)
  exact not_congr (filters (List.mem_append_left _ earlier)).symm

/-- A usage that filters is found if an argument filters by the type. -/
lemma isSome_find?_usagesOf_iff :
    ((table.usagesOf t.name).find? (·.name == "filter")).isSome ↔
      ∃ a ∈ table.arguments, a.Filters t := by
  rw [List.find?_isSome, usagesOf_eq_filter built]
  simp only [List.mem_filter, and_assoc]
  exact exists_congr fun a => and_congr_right fun mem => (filters_iff built mem).symm

/-- Mutations return the types that the fields of their root type refer to. -/
lemma mem_mutationResults_iff :
    name ∈ table.mutationResults ↔
      ∃ f, .field f ∈ table.entities ∧ table.rootName? .mutation = some f.owner ∧
        f.type.RefersTo name := by
  have wf := wellFormed_of_build built
  have results : table.mutationResults =
      (((table.root? .mutation).map (·.fields.map (·.type.name))).getD []).eraseDups := by
    obtain ⟨-, rfl⟩ := build_eq_ok_iff.1 built
    rfl
  have refers {t : TypeDef} (memT : t ∈ table.types) {f : Field} (memF : f ∈ t.fields) :
      f.type.RefersTo name ↔ f.type.name = name :=
    (written_of_build built memT f memF).type.refersTo_iff
  rw [results, List.mem_eraseDups]
  constructor
  · intro mem
    cases root : table.root? .mutation with
    | none =>
      rw [root] at mem
      cases mem
    | some t =>
      rw [root] at mem
      obtain ⟨f, memF, eq⟩ := List.mem_map.1 mem
      obtain ⟨n, named, found⟩ := Option.bind_eq_some_iff.1 root
      obtain ⟨memT, rfl⟩ := wf.get?_eq_some_iff.1 found
      rw [← ((wf.types t memT).fields f memF).owner_eq] at named
      exact ⟨f, mem_entities_of_mem_fields memT memF, named, (refers memT memF).2 eq⟩
  · rintro ⟨f, mem, named, core⟩
    obtain ⟨t, memT, memF⟩ := field_mem_entities mem
    have root : table.root? .mutation = some t := by
      rw [root?, named, ((wf.types t memT).fields f memF).owner_eq]
      exact wf.get?_eq_some memT
    rw [root]
    exact List.mem_map.2 ⟨f, memF, (refers memT memF).1 core⟩

end

section
variable {d : Document} {source : Option String} {context : Context} {t : TypeDef}
variable (built : Table.build d source = .ok context.table)
include built

/-- The rule on filters tells of an input type without the suffix that an argument filters by. -/
lemma filterSuffix_reported_ne_nil_iff :
    Rule.filterSuffix.reported context (.type t) ≠ [] ↔
      ((isReserved t.name = false ∧ t.kind = .input) ∧ Word.endsWith t.name "Filter" = false) ∧
        ∃ a ∈ context.table.arguments, a.Filters t := by
  rw [Rule.filterSuffix_reported, ← isSome_find?_usagesOf_iff built]
  split
  case isTrue fits =>
    rw [and_iff_right fits]
    cases (context.table.usagesOf t.name).find? (·.name == "filter") <;> simp
  case isFalse other => exact iff_of_false (not_not.2 rfl) fun both => other both.1

/-- What the rule about filters tells of a type names the first argument that filters. -/
lemma exists_first_of_filterSuffix (told : Rule.filterSuffix.reported context (.type t) ≠ []) :
    ∃ before first after, context.table.arguments = before ++ first :: after ∧
      first.Filters t ∧ (∀ a ∈ before, ¬a.Filters t) ∧
      Rule.filterSuffix.reported context (.type t) =
        [Rule.filterSuffix.diagnostic (Rule.filterFinding t first)] := by
  obtain ⟨fits, filters⟩ := (filterSuffix_reported_ne_nil_iff built).1 told
  rw [← isSome_find?_usagesOf_iff built] at filters
  obtain ⟨first, found⟩ := Option.isSome_iff_exists.1 filters
  obtain ⟨before, after, walk, filters, others⟩ := (find?_usagesOf_eq_some_iff built).1 found
  refine ⟨before, first, after, walk, filters, others, ?_⟩
  rw [Rule.filterSuffix_reported, if_pos fits, found]
  rfl

end

/-- The indexes of a table that is built of a document agree with a walk over its entities. Under a
name there are the arguments of the walk that refer to it, in the order of the walk, which comes to
none twice. The types that mutations return are those that the fields of the root type of mutations
refer to. So the rule about filters reports the input types that are not reserved, do not end with
`Filter` and are referred to by an argument called `filter`, and names the first such argument. -/
theorem build_indexes {d : Document} {source : Option String} (context : Context)
    (built : Table.build d source = .ok context.table) :
    context.table.arguments.Nodup ∧
    (∀ a ∈ context.table.arguments, ∀ name, a.type.name = name ↔ a.type.RefersTo name) ∧
    (∀ name, context.table.usagesOf name =
      context.table.arguments.filter fun a => a.type.name == name) ∧
    (context.table.mutationResults.Nodup ∧
      ∀ name, name ∈ context.table.mutationResults ↔
        ∃ f, .field f ∈ context.table.entities ∧
          context.table.rootName? .mutation = some f.owner ∧ f.type.RefersTo name) ∧
    ∀ t : TypeDef,
      (Rule.filterSuffix.reported context (.type t) ≠ [] ↔
        t.kind = .input ∧ (¬∃ rest, t.name = "__" ++ rest) ∧ (¬∃ front, t.name = front ++ "Filter") ∧
          ∃ a ∈ context.table.arguments, a.Filters t) ∧
      (Rule.filterSuffix.reported context (.type t) ≠ [] →
        ∃ before first after, context.table.arguments = before ++ first :: after ∧
          first.Filters t ∧ (∀ a ∈ before, ¬a.Filters t) ∧
          Rule.filterSuffix.reported context (.type t) =
            [Rule.filterSuffix.diagnostic (Rule.filterFinding t first)]) := by
  have wf := wellFormed_of_build built
  refine ⟨wf.nodup_arguments, ?_, usagesOf_eq_filter built, ⟨?_, ?_⟩, ?_⟩
  · intro a mem name
    exact (refersTo_iff_of_mem_arguments built mem).symm
  · obtain ⟨-, eq⟩ := build_eq_ok_iff.1 built
    rw [eq]
    exact nodup_eraseDups _
  · exact fun name => mem_mutationResults_iff built
  · intro t
    refine ⟨?_, exists_first_of_filterSuffix built⟩
    rw [filterSuffix_reported_ne_nil_iff built, Rule.filterSuffix_scope_iff, and_assoc, and_assoc]

/-- A document in which two fields are filtered by one input type, the first in lists. -/
def filteredDocument : Document where
  definitions := [
    .type false ⟨"Query", ⟨1, 6⟩⟩ (.object []
      [⟨⟨"users", ⟨1, 14⟩⟩, [⟨⟨"limit", ⟨1, 20⟩⟩, .named ⟨"Int", ⟨1, 27⟩⟩ false⟩,
        ⟨⟨"filter", ⟨1, 32⟩⟩, .list ⟨1, 40⟩ (.named ⟨"UserInput", ⟨1, 41⟩⟩ true) true⟩],
        .named ⟨"Int", ⟨1, 56⟩⟩ false⟩,
      ⟨⟨"teams", ⟨2, 3⟩⟩, [⟨⟨"filter", ⟨2, 9⟩⟩, .named ⟨"UserInput", ⟨2, 17⟩⟩ false⟩],
        .named ⟨"Int", ⟨2, 29⟩⟩ false⟩]),
    .type false ⟨"Mutation", ⟨3, 6⟩⟩ (.object []
      [⟨⟨"saveUsers", ⟨3, 17⟩⟩, [], .list ⟨3, 28⟩ (.named ⟨"User", ⟨3, 29⟩⟩ false) true⟩]),
    .type false ⟨"User", ⟨4, 6⟩⟩ (.object []
      [⟨⟨"name", ⟨4, 13⟩⟩, [], .named ⟨"String", ⟨4, 19⟩⟩ false⟩]),
    .type false ⟨"UserInput", ⟨5, 7⟩⟩ (.input
      [⟨⟨"name", ⟨5, 19⟩⟩, [], .named ⟨"String", ⟨5, 25⟩⟩ false⟩])]
  origin := none

/-- What a rule looks at by default in the schema of the document. -/
def filteredContext : Context where
  table := .ofTypes filteredDocument.types filteredDocument.roots "<schema>"
  options := .default
  judgement := .ofNames []

/-- The input type is reported for the field that the walk comes to first. -/
theorem build_indexes_filtered :
    let users : Argument :=
      ⟨"filter", ⟨"UserInput", false, 1, some false, "[UserInput!]!"⟩, "Query", "users", ⟨1, 32⟩⟩
    let teams : Argument :=
      ⟨"filter", ⟨"UserInput", true, 0, none, "UserInput"⟩, "Query", "teams", ⟨2, 9⟩⟩
    let input : TypeDef := ⟨"UserInput", .input,
      [⟨"name", "UserInput", ⟨"String", true, 0, none, "String"⟩, [], ⟨5, 19⟩⟩], [], [], [], ⟨5, 7⟩⟩
    Table.build filteredDocument none = .ok filteredContext.table ∧
    filteredContext.table.usagesOf "UserInput" = [users, teams] ∧
    "User" ∈ filteredContext.table.mutationResults ∧
    Rule.filterSuffix.reported filteredContext (.type input) =
      [Rule.filterSuffix.diagnostic (Rule.filterFinding input users)] := by
  intro users teams input
  have built : Table.build filteredDocument none = .ok filteredContext.table := rfl
  have walk : ∃ limit : Argument, limit.name = "limit" ∧
      filteredContext.table.arguments = [limit, users, teams] := ⟨_, rfl, rfl⟩
  obtain ⟨limit, other, walk⟩ := walk
  obtain ⟨-, refers, usages, ⟨-, results⟩, filters⟩ := build_indexes filteredContext built
  rw [walk] at refers
  have filtered {a : Argument} (mem : a ∈ [limit, users, teams]) (name : a.name = "filter")
      (type : a.type.name = "UserInput") : a.Filters input := ⟨name, (refers a mem _).1 type⟩
  obtain ⟨told, names_first⟩ := filters input
  have reserved : ¬∃ rest, "UserInput" = "__" ++ rest := by
    rw [← isReserved_iff]
    decide
  have suffixed : ¬∃ front, "UserInput" = front ++ "Filter" := by
    rw [← Word.endsWith_iff]
    decide
  refine ⟨built, ?_, ?_, ?_⟩
  · rw [usages]
    rfl
  · rw [results]
    let saveUsers : Field :=
      ⟨"saveUsers", "Mutation", ⟨"User", false, 1, some true, "[User]!"⟩, [], ⟨3, 17⟩⟩
    let returned : Sdl.TypeExpr := .list ⟨3, 28⟩ (.named ⟨"User", ⟨3, 29⟩⟩ false) true
    exact ⟨saveUsers, by decide +kernel, rfl, returned, rfl, .list (.named rfl)⟩
  · have reported := told.2 ⟨rfl, reserved, suffixed, users, by rw [walk]; simp,
      filtered (by simp) rfl rfl⟩
    obtain ⟨before, first, after, eq, fits, others, report⟩ := names_first reported
    rw [walk] at eq
    rw [report]
    match before, eq with
    | [], eq =>
      obtain ⟨rfl, -⟩ := List.cons.inj eq
      exact absurd (other.symm.trans fits.name) (by decide)
    | [_], eq =>
      obtain ⟨-, eq⟩ := List.cons.inj eq
      obtain ⟨rfl, -⟩ := List.cons.inj eq
      rfl
    | _ :: b :: before, eq =>
      obtain ⟨-, eq⟩ := List.cons.inj eq
      obtain ⟨rfl, -⟩ := List.cons.inj eq
      exact absurd (filtered (by simp) rfl rfl) (others users (by simp))

end Table

end SchemaLint

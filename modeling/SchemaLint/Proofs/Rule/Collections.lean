import Mathlib
import SchemaLint.Proofs.Rule.Findings
import SchemaLint.Proofs.Rule.RootFields
import SchemaLint.Proofs.Schema.TypeRef
import SchemaLint.Proofs.Schema.Written
import SchemaLint.Rule.Queries

/-!
# Lists that queries return

A query that returns a list is asked for two marks: one behind the list and one behind the type at the
core. Lists between the two may have gaps, so a query is spared just if its type is written with these
marks, whatever stands between them. In one list nothing does: `Rule.collectionQueryShape_reports`.
-/

namespace SchemaLint

open Sdl.TypeExpr (opening)

/-- The reference is to a list that is non-null and has a non-null type at its core. -/
def TypeRef.IsCollection (r : TypeRef) : Prop := r.nullable = false ∧ r.elementNullable = some false

namespace TypeRef.Written

variable {r : TypeRef} (written : r.Written) (list : r.isList)
include written list

/-- The text of a list shows whether it is a collection. -/
lemma isCollection_iff :
    r.IsCollection ↔ ∃ between, r.text = opening r.depth ++ r.name ++ ("!" ++ between ++ "]!") := by
  obtain ⟨t, rfl⟩ := written
  have deep : 0 < t.depth := by simpa [isList] using list
  have marks : t.toRef.IsCollection ↔ t.core.2 ∧ t.required := by
    simp [IsCollection, deep.ne', and_comm]
  rw [marks, Sdl.TypeExpr.toRef_depth, Sdl.TypeExpr.toRef_name]
  exact (Sdl.TypeExpr.exists_text_eq_iff deep).symm

/-- There is one text of a collection in one list. -/
lemma isCollection_iff_of_single (single : r.depth = 1) :
    r.IsCollection ↔ r.text = "[" ++ r.name ++ "!]!" := by
  rw [isCollection_iff written list]
  obtain ⟨t, rfl⟩ := written
  have single : t.depth = 1 := by simpa using single
  rw [Sdl.TypeExpr.toRef_name, Sdl.TypeExpr.toRef_depth]
  exact (Sdl.TypeExpr.exists_text_eq_iff (by omega)).trans (Sdl.TypeExpr.text_eq_iff single).symm

end TypeRef.Written

namespace Rule

variable {context : Context} {f : Field}

open Classical in
/-- A query that returns a list is reported unless the list is a collection. -/
lemma reported_collectionQueryShape (serves : context.table.operationOf? f = some .query)
    (list : f.type.isList) :
    let expected := s!"[{f.type.name}!]!"
    collectionQueryShape.reported context (.field f) =
      if f.type.IsCollection then []
      else [⟨"CollectionQueryShape", .error,
        s!"Query field '{f.name}' returns '{f.type.text}'; " ++
          s!"collections should be '{expected}'",
        .ofEntity (.field f), some expected⟩] := by
  intro expected
  have collection : !f.type.nullable && f.type.elementNullable == some false ↔
      f.type.IsCollection := by
    rw [Bool.and_eq_true, Bool.not_eq_true', beq_iff_eq]
    rfl
  by_cases fits : f.type.IsCollection
  · have reported : collectionQueryShape.reported context (.field f) = _ :=
      reported_onRootFields (if_pos (collection.2 fits))
    rw [if_pos fits, reported]
    exact ite_self []
  · have reported : collectionQueryShape.reported context (.field f) = _ :=
      reported_onRootFields (if_neg (mt collection.1 fits))
    rw [if_neg fits, reported]
    exact if_pos (And.intro serves list)

/-- What is reported about a query of a table that is built of a document, if it returns a list.
Nothing is reported just if the text of its type has a mark behind the name at the core and one at its
end, which in one list leaves one text only. Else one error is reported, and its fix is this text. -/
theorem collectionQueryShape_reports {d : Sdl.Document} {source : Option String} (context : Context)
    (built : Table.build d source = .ok context.table) (f : Field)
    (mem : .field f ∈ context.table.entities)
    (serves : context.table.operationOf? f = some .query) (list : f.type.isList) :
    let expected := s!"[{f.type.name}!]!"
    (collectionQueryShape.reported context (.field f) = [] ↔
      ∃ between, f.type.text = opening f.type.depth ++ f.type.name ++ ("!" ++ between ++ "]!")) ∧
    (f.type.depth = 1 →
      (collectionQueryShape.reported context (.field f) = [] ↔ f.type.text = expected)) ∧
    (collectionQueryShape.reported context (.field f) ≠ [] →
      collectionQueryShape.reported context (.field f) =
        [⟨"CollectionQueryShape", .error,
          s!"Query field '{f.name}' returns '{f.type.text}'; " ++
            s!"collections should be '{expected}'",
          .ofEntity (.field f), some expected⟩]) := by
  intro expected
  obtain ⟨t, memT, memF⟩ := Table.field_mem_entities mem
  have written := (Table.written_of_build built memT f memF).type
  have reported := reported_collectionQueryShape serves list
  have silent : collectionQueryShape.reported context (.field f) = [] ↔ f.type.IsCollection := by
    rw [reported]
    simp
  refine ⟨silent.trans (written.isCollection_iff list), fun single => ?_, fun told => ?_⟩
  · exact silent.trans (written.isCollection_iff_of_single list single)
  · rw [reported, if_neg (mt silent.2 told)]

/-- A document with queries that return lists of lists. -/
def gridDocument : Sdl.Document where
  definitions := [
    .type false ⟨"Query", ⟨1, 6⟩⟩ (.object []
      [⟨⟨"grid", ⟨1, 14⟩⟩, [],
          .list ⟨1, 20⟩ (.list ⟨1, 21⟩ (.named ⟨"Int", ⟨1, 22⟩⟩ true) true) true⟩,
        ⟨⟨"rows", ⟨1, 31⟩⟩, [],
          .list ⟨1, 37⟩ (.list ⟨1, 38⟩ (.named ⟨"Int", ⟨1, 39⟩⟩ true) false) true⟩,
        ⟨⟨"cells", ⟨1, 47⟩⟩, [],
          .list ⟨1, 54⟩ (.list ⟨1, 55⟩ (.named ⟨"Int", ⟨1, 56⟩⟩ false) true) true⟩])]
  origin := none

/-- What a rule looks at by default in the schema of the document. -/
def gridContext : Context where
  table := .ofTypes gridDocument.types gridDocument.roots "<schema>"
  options := .default
  judgement := .ofNames []

/-- The rows may be null, and nothing is reported; the cells must not be. -/
theorem collectionQueryShape_reports_grid :
    let rows : Field := ⟨"rows", "Query", ⟨"Int", false, 2, some false, "[[Int!]]!"⟩, [], ⟨1, 31⟩⟩
    let cells : Field := ⟨"cells", "Query", ⟨"Int", false, 2, some true, "[[Int]!]!"⟩, [], ⟨1, 47⟩⟩
    Table.build gridDocument none = .ok gridContext.table ∧
    (∀ f ∈ [rows, cells], .field f ∈ gridContext.table.entities ∧
      gridContext.table.operationOf? f = some .query ∧ f.type.isList) ∧
    collectionQueryShape.reported gridContext (.field rows) = [] ∧
    collectionQueryShape.reported gridContext (.field cells) =
      [⟨"CollectionQueryShape", .error,
        "Query field 'cells' returns '[[Int]!]!'; collections should be '[Int!]!'",
        ⟨"Query", some "cells", none, 1, 47⟩, some "[Int!]!"⟩] := by
  intro rows cells
  have built : Table.build gridDocument none = .ok gridContext.table := rfl
  have queries : ∀ f ∈ [rows, cells], .field f ∈ gridContext.table.entities ∧
      gridContext.table.operationOf? f = some .query ∧ f.type.isList := by decide +kernel
  refine ⟨built, queries, ?_, ?_⟩
  · obtain ⟨mem, serves, list⟩ := queries rows (by simp)
    exact (collectionQueryShape_reports gridContext built rows mem serves list).1.2 ⟨"]", rfl⟩
  · obtain ⟨mem, serves, list⟩ := queries cells (by simp)
    obtain ⟨silent, -, told⟩ :=
      collectionQueryShape_reports gridContext built cells mem serves list
    refine told (mt silent.1 ?_)
    rintro ⟨between, text⟩
    have core := congrArg (·.toList[5]?) text
    simp [cells, opening] at core

/-- A list of which nothing can be null is spared, though there are more texts of such lists than one:
lists of lists may be non-null at each level. -/
theorem collectionQueryShape_silent_grid :
    ¬∀ (d : Sdl.Document) (context : Context) (f : Field),
      Table.build d none = .ok context.table → .field f ∈ context.table.entities →
      context.table.rootName? .query = some f.owner → f.type.isList →
      (collectionQueryShape.reported context (.field f) = [] ↔
        f.type.text = s!"[{f.type.name}!]!") := by
  intro one
  have silent := one gridDocument gridContext
    ⟨"grid", "Query", ⟨"Int", false, 2, some false, "[[Int!]!]!"⟩, [], ⟨1, 14⟩⟩ rfl (by decide +kernel)
    (by decide +kernel) rfl
  exact absurd (silent.1 (by decide +kernel)) (by decide)

end Rule

end SchemaLint

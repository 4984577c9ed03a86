import Mathlib
import SchemaLint.Proofs.Schema.Unplaced
import SchemaLint.Proofs.Schema.Violation

/-!
# Violations without positions

A document from which the positions were taken has the violations of the document in the same order,
without their positions: `Violation.all_unplaced`. So positions decide neither whether a document makes
a schema nor which of its violations is told.
-/

namespace SchemaLint

open Sdl (ArgumentNode Document FieldNode Ident RootNode TypeBody TypeExpr)

/-- The part without its positions. -/
def TypePart.unplaced : TypePart → TypePart
  | .interface i => .interface i.unplaced
  | .field f => .field f.unplaced
  | .member m => .member m.unplaced
  | .value v => .value v.unplaced

/-- The violation without its positions. -/
def Violation.unplaced : Violation → Violation
  | redefinedType name first => redefinedType name.unplaced first.unplaced
  | conflictingKind name first second => conflictingKind name.unplaced first second
  | redefinedMember kind owner name => redefinedMember kind owner name.unplaced
  | undefinedType name referencedFrom _ => undefinedType name referencedFrom .unknown

/-! ## Parts of documents -/

/-- The parts of a body lose their positions with it. -/
lemma Sdl.TypeBody.parts_unplaced (body : TypeBody) :
    body.unplaced.parts = body.parts.map (·.unplaced) := by
  simp only [parts, interfaces_unplaced, fields_unplaced, members_unplaced, values_unplaced,
    List.map_append, List.map_map]
  rfl

/-- The directives of a document lose their positions with it. -/
lemma Sdl.Document.directives_unplaced (d : Document) :
    d.unplaced.directives = d.directives.map fun x => (x.1.unplaced, x.2.map (·.unplaced)) := by
  rw [directives, directives, unplaced, List.filterMap_map, List.map_filterMap]
  refine List.filterMap_congr fun x _ => ?_
  rcases x with _ | _ | ⟨_ | _, _, _⟩ | _ | _ <;> rfl

/-! ## Violations -/

namespace Violation

/-- A scan of elements without their positions says what the scan says, without positions. -/
lemma scan_map {α : Type} {key : α → Option String} {twice other : α → List Violation} {g : α → α}
    (sameKey : ∀ x, key (g x) = key x)
    (sameTwice : ∀ x, twice (g x) = (twice x).map (·.unplaced))
    (sameOther : ∀ x, other (g x) = (other x).map (·.unplaced)) (seen : List String) (xs : List α) :
    scan key twice other seen (xs.map g) = (scan key twice other seen xs).map (·.unplaced) := by
  induction xs generalizing seen with
  | nil => rfl
  | cons x xs ih =>
    rw [List.map_cons, scan, scan, sameKey, sameTwice, sameOther, ih, List.map_append,
      List.map_append, apply_ite (List.map _)]
    rfl

section
variable (known : String → Bool)

/-- A reference is wrong with or without positions. -/
lemma ofReference_unplaced (name referencedFrom : String) (position : Sdl.Position) :
    ofReference known name referencedFrom .unknown =
      (ofReference known name referencedFrom position).map (·.unplaced) := by
  rw [ofReference, ofReference, apply_ite (List.map _)]
  rfl

/-- Arguments are wrong with or without positions, by induction on them. -/
lemma ofArguments_unplaced (owner field : String) (seen : List String) (as : List ArgumentNode) :
    ofArguments known owner field seen (as.map (·.unplaced)) =
      (ofArguments known owner field seen as).map (·.unplaced) := by
  rw [ofArguments_eq_scan, ofArguments_eq_scan]
  refine scan_map ?_ ?_ (fun a => ?_) seen as
  · exact fun _ => rfl
  · exact fun _ => rfl
  · simp only [ArgumentNode.unplaced, Ident.text_unplaced, TypeExpr.core_unplaced,
      TypeExpr.position_unplaced, ← ofReference_unplaced]

/-- A field is wrong with or without positions. -/
lemma ofField_unplaced (owner : String) (f : FieldNode) :
    ofField known owner f.unplaced = (ofField known owner f).map (·.unplaced) := by
  simp only [ofField, FieldNode.unplaced, Ident.text_unplaced, TypeExpr.core_unplaced,
    TypeExpr.position_unplaced, ofArguments_unplaced, List.map_append, ← ofReference_unplaced]

/-- Parts are wrong with or without positions, by induction on them. -/
lemma ofParts_unplaced (owner : String) (seen : List String) (parts : List TypePart) :
    ofParts known owner seen (parts.map (·.unplaced)) =
      (ofParts known owner seen parts).map (·.unplaced) := by
  rw [ofParts_eq_scan, ofParts_eq_scan]
  refine scan_map (fun part => ?_) (fun part => ?_) (fun part => ?_) seen parts
  · cases part <;> rfl
  · cases part <;> rfl
  · cases part with
    | interface i => exact ofReference_unplaced known i.text owner i.position
    | member m => exact ofReference_unplaced known m.text owner m.position
    | field f => exact ofField_unplaced known owner f
    | value _ => rfl

/-- A directive is wrong with or without positions. -/
lemma ofDirective_unplaced (directive : Ident × List ArgumentNode) :
    ofDirective known (directive.1.unplaced, directive.2.map (·.unplaced)) =
      (ofDirective known directive).map (·.unplaced) := by
  rw [ofDirective, ofDirective, List.flatMap_map, List.map_flatMap]
  refine List.flatMap_congr fun a _ => ?_
  simp only [ArgumentNode.unplaced, Ident.text_unplaced, TypeExpr.core_unplaced]
  exact ofReference_unplaced known _ _ a.name.position

/-- Roots are wrong with or without positions. -/
lemma ofRoots_unplaced (roots : List RootNode) :
    ofRoots known (roots.map fun r => ⟨r.operation, r.type.unplaced⟩) =
      (ofRoots known roots).map (·.unplaced) := by
  rw [ofRoots, ofRoots, List.flatMap_map, List.map_flatMap]
  exact List.flatMap_congr fun r _ => ofReference_unplaced known r.type.text "schema" r.type.position

end

/-- A type node is wrong with or without positions. -/
lemma ofNode_unplaced (earlier : List TypeNode) (n : TypeNode) :
    ofNode (earlier.map (·.unplaced)) n.unplaced = (ofNode earlier n).map (·.unplaced) := by
  have same : (earlier.map (·.unplaced)).filter (·.name.text == n.unplaced.name.text) =
      (earlier.filter (·.name.text == n.name.text)).map (·.unplaced) := by
    rw [List.filter_map]
    rfl
  have first : earlierDefinition? (earlier.map (·.unplaced)) n.unplaced =
      (earlierDefinition? earlier n).map (·.unplaced) := by
    rw [earlierDefinition?, earlierDefinition?, same, TypeNode.find?_base_unplaced,
      apply_ite (Option.map _)]
    rfl
  rw [ofNode_eq, ofNode_eq, same, first, List.head?_map]
  cases earlierDefinition? earlier n with
  | some first => rfl
  | none =>
    cases (earlier.filter (·.name.text == n.name.text)).head? with
    | none => rfl
    | some first =>
      have kind : first.unplaced.body.kind = first.body.kind := first.body.kind_unplaced
      have kind' : n.unplaced.body.kind = n.body.kind := n.body.kind_unplaced
      simp only [Option.map_some, Option.map_none, kind, kind', apply_ite (List.map _)]
      rfl

/-- Type nodes are wrong with or without positions, by induction on them. -/
lemma ofNodes_unplaced (earlier nodes : List TypeNode) :
    ofNodes (earlier.map (·.unplaced)) (nodes.map (·.unplaced)) =
      (ofNodes earlier nodes).map (·.unplaced) := by
  induction nodes generalizing earlier with
  | nil => rfl
  | cons n nodes ih =>
    have next := ih (earlier ++ [n])
    rw [List.map_append] at next
    rw [List.map_cons, ofNodes, ofNodes, ofNode_unplaced, List.map_append, ← next]
    rfl

/-- Positions do not matter to the violations of a document and to their order. -/
lemma all_unplaced (d : Document) : all d.unplaced = (all d).map (·.unplaced) := by
  have parts (name : String) : partsOf d.unplaced name = (partsOf d name).map (·.unplaced) := by
    simp only [partsOf, d.nodesOf_unplaced, List.flatMap_map, List.map_flatMap, TypeNode.unplaced,
      TypeBody.parts_unplaced]
  have nodes := ofNodes_unplaced [] d.typeNodes
  rw [List.map_nil] at nodes
  simp only [all, d.typeNodes_unplaced, d.typeNames_unplaced, d.directives_unplaced,
    d.schemaNodes_unplaced, nodes, parts, ofParts_unplaced, List.flatMap_map, ofDirective_unplaced,
    ofRoots_unplaced, List.map_append, List.map_flatMap]

end Violation

/-! ## Problems -/

/-- The problems have the same cause, code and hint. They may be at different places and have different
notes. -/
structure Problem.SameCause (p p' : Problem) : Prop where
  cause : p'.cause = p.cause
  code : p'.code = p.code
  hint : p'.hint = p.hint

/-- The line of a first definition is a note. -/
lemma Problem.sameCause_redefinedType (name : String) (span span' : Span) (first first' : Option Span) :
    (redefinedType name span first).SameCause (redefinedType name span' first') := by
  have plain (span : Span) (first : Option Span) :
      (of (.redefinedType name) span).SameCause (redefinedType name span first) := by
    cases first with
    | none => exact ⟨rfl, rfl, rfl⟩
    | some s =>
      rw [redefinedType]
      split <;> exact ⟨rfl, rfl, rfl⟩
  obtain ⟨cause, code, hint⟩ := plain span first
  obtain ⟨cause', code', hint'⟩ := plain span' first'
  exact ⟨cause'.trans cause.symm, code'.trans code.symm, hint'.trans hint.symm⟩

/-- Unknown types of one name are one cause, wherever they stand. -/
lemma Problem.sameCause_undefinedType (name referencedFrom : String) (span span' : Span)
    (similar : List String) :
    (undefinedType name referencedFrom span similar).SameCause
      (undefinedType name referencedFrom span' similar) := by
  rcases similar with _ | ⟨one, _ | ⟨two, more⟩⟩ <;> exact ⟨rfl, rfl, rfl⟩

/-- The problem of a violation has the same cause without positions. -/
lemma Violation.sameCause_toProblem (v : Violation) (d : Document) (source source' : String) :
    (v.toProblem d source).SameCause (v.unplaced.toProblem d.unplaced source') := by
  cases v with
  | redefinedType name first =>
    rw [unplaced, toProblem, toProblem]
    exact Problem.sameCause_redefinedType name.text _ _ _ _
  | conflictingKind _ _ _ => exact ⟨rfl, rfl, rfl⟩
  | redefinedMember _ _ _ => exact ⟨rfl, rfl, rfl⟩
  | undefinedType name referencedFrom position =>
    have candidates : candidates d.unplaced = candidates d := by
      rw [Violation.candidates, d.typeNames_unplaced, Violation.candidates]
    rw [unplaced, toProblem, toProblem, candidates]
    exact Problem.sameCause_undefinedType name referencedFrom _ _ _

namespace Table

variable {d : Document} {source : String}

/-- The table of a document without its positions is the table of the document, without them. -/
lemma build_unplaced {table : Table} (built : build d (some source) = .ok table) :
    build d.unplaced (some source) = .ok table.unplaced := by
  rw [build, Violation.all_unplaced]
  rw [build] at built
  cases none_found : Violation.all d with
  | cons v vs => simp [none_found] at built
  | nil =>
    rw [none_found] at built
    cases built
    rw [← ofTypes_unplaced, ← d.types_unplaced, ← d.roots_unplaced]
    rfl

/-- A document of which no table can be built fails by the same cause without positions. -/
lemma build_unplaced_error {p : Problem} (failed : build d (some source) = .error p) :
    ∃ p', build d.unplaced (some source) = .error p' ∧ p.SameCause p' := by
  rw [build] at failed
  rw [build, Violation.all_unplaced]
  cases found : Violation.all d with
  | nil => simp [found] at failed
  | cons v vs =>
    rw [found] at failed
    cases failed
    exact ⟨_, rfl, v.sameCause_toProblem d _ _⟩

end Table

end SchemaLint

import Mathlib
import SchemaLint.Proofs.Schema.Violation

/-!
# Accepted documents

A table is built of the consistent documents and of no others. The problem of any other document
tells something that is wrong with it.
-/

namespace SchemaLint

open Sdl (Document FieldNode Ident Position TypeBody)

namespace Violation

/-! ## Problems of violations -/

/-- The cause of the problem of a violation. -/
def cause : Violation → Cause
  | redefinedType name _ => .redefinedType name.text
  | conflictingKind name first second => .conflictingKind name.text first second
  | redefinedMember kind owner name => .redefinedMember kind.text owner name.text
  | undefinedType name referencedFrom _ => .undefinedType name referencedFrom

/-- Where a violation is. -/
def position : Violation → Position
  | redefinedType name _ => name.position
  | conflictingKind name _ _ => name.position
  | redefinedMember _ _ name => name.position
  | undefinedType _ _ position => position

/-- A note on an earlier definition changes neither the cause nor the place of a problem. -/
lemma redefinedType_cause_span (name : String) (span : Span) (first : Option Span) :
    (Problem.redefinedType name span first).cause = .redefinedType name ∧
      (Problem.redefinedType name span first).span = span := by
  unfold Problem.redefinedType
  split
  · split <;> exact ⟨rfl, rfl⟩
  · exact ⟨rfl, rfl⟩

/-- Similar names change nothing of the cause and the place of a problem. -/
lemma undefinedType_cause_span (name referencedFrom : String) (span : Span)
    (similar : List String) :
    (Problem.undefinedType name referencedFrom span similar).cause =
        .undefinedType name referencedFrom ∧
      (Problem.undefinedType name referencedFrom span similar).span = span := by
  unfold Problem.undefinedType
  split <;> exact ⟨rfl, rfl⟩

/-- The problem of a violation has its cause and its place. -/
lemma toProblem_cause_span (d : Document) (source : String) (v : Violation) :
    (v.toProblem d source).cause = v.cause ∧
      (v.toProblem d source).span = .ofPosition source v.position := by
  cases v with
  | redefinedType name first => exact redefinedType_cause_span _ _ _
  | conflictingKind name first second => exact ⟨rfl, rfl⟩
  | redefinedMember kind owner name => exact ⟨rfl, rfl⟩
  | undefinedType name referencedFrom position => exact undefinedType_cause_span _ _ _ _

section Document
variable {d : Document} {source : String} {v : Violation}

/-! ## Listed violations -/

/-- A name is known if the document declares it or it is that of a built-in scalar. -/
lemma isKnown_iff {name : String} :
    isKnown d.typeNames name ↔ d.Declares name ∨ name ∈ builtinScalars := by
  rw [isKnown, Bool.or_eq_true, List.contains_iff_mem, List.contains_iff_mem,
    Document.mem_typeNames]

/-- The violations of a document: those of the nodes of types, of the parts of each type, of the
arguments of directives and of root types. -/
lemma mem_all :
    v ∈ all d ↔ v ∈ ofNodes [] d.typeNodes ∨
      (∃ name ∈ d.typeNames, v ∈ ofParts (isKnown d.typeNames) name [] (partsOf d name)) ∨
      (∃ directive ∈ d.directives, v ∈ ofDirective (isKnown d.typeNames) directive) ∨
      ∃ roots ∈ d.schemaNodes, v ∈ ofRoots (isKnown d.typeNames) roots := by
  simp only [all, List.mem_append, List.mem_flatMap, or_assoc]

/-- What is wrong with a part of a body is among the violations of the document. -/
lemma mem_all_of_part {i : Ident} {body : TypeBody} {part : TypePart} (has : d.HasBody i body)
    (mem : part ∈ body.parts) (wrong : v ∈ part.violations (isKnown d.typeNames) i.text) :
    v ∈ all d := by
  have listed : part ∈ partsOf d i.text := mem_partsOf.2 ⟨i, body, has, rfl, mem⟩
  have declared : i.text ∈ d.typeNames := Document.mem_typeNames.2 ⟨i, body, has, rfl⟩
  exact mem_all.2 (.inr (.inl ⟨i.text, declared, mem_ofParts.2 (.inl ⟨part, listed, wrong⟩)⟩))

/-- A member with a name twice is among the violations of the document. -/
lemma mem_all_of_repeated {name : String} {p q : TypePart} (sub : [p, q].Sublist (partsOf d name))
    (named : p.memberName?.isSome) (same : p.memberName? = q.memberName?)
    (wrong : v ∈ q.repeated name) : v ∈ all d := by
  obtain ⟨i, body, has, rfl, -⟩ := mem_partsOf.1 (sub.subset List.mem_cons_self)
  have declared : i.text ∈ d.typeNames := Document.mem_typeNames.2 ⟨i, body, has, rfl⟩
  exact mem_all.2 (.inr (.inl ⟨i.text, declared,
    mem_ofParts.2 (.inr ⟨p, q, sub, named, same, wrong⟩)⟩))

/-- A reference to an unknown type is among the violations of the document. -/
lemma mem_all_of_refers {name referencedFrom : String} {position : Position}
    (refers : d.Refers name referencedFrom position) (unknown : isKnown d.typeNames name = false) :
    .undefinedType name referencedFrom position ∈ all d := by
  have wrong : .undefinedType name referencedFrom position ∈
      ofReference (isKnown d.typeNames) name referencedFrom position :=
    mem_ofReference.2 ⟨unknown, rfl⟩
  cases refers with
  | fieldType has mem =>
    exact mem_all_of_part has (Sdl.TypeBody.field_mem_parts.2 mem) (mem_ofField.2 (.inl wrong))
  | argumentType has mem memA =>
    exact mem_all_of_part has (Sdl.TypeBody.field_mem_parts.2 mem)
      (mem_ofField.2 (.inr (.inl ⟨_, memA, wrong⟩)))
  | member has mem => exact mem_all_of_part has (Sdl.TypeBody.member_mem_parts.2 mem) wrong
  | interface has mem => exact mem_all_of_part has (Sdl.TypeBody.interface_mem_parts.2 mem) wrong
  | directiveArgument defined mem =>
    exact mem_all.2 (.inr (.inr (.inl
      ⟨_, Document.mem_directives.2 defined, List.mem_flatMap.2 ⟨_, mem, wrong⟩⟩)))
  | root defined mem =>
    exact mem_all.2 (.inr (.inr (.inr
      ⟨_, Document.mem_schemaNodes.2 ⟨_, _, defined⟩, List.mem_flatMap.2 ⟨_, mem, wrong⟩⟩)))

/-! ## Documents without violations -/

/-- Of a document without violations, those parts of a type that have a name have different ones. -/
lemma nodup_select_of_all_eq_nil (none_found : all d = []) (name : String) {α : Type}
    {select : TypePart → Option α} {key : α → String}
    (named : ∀ {p x}, select p = some x → p.memberName? = some (key x)) :
    (((partsOf d name).filterMap select).map key).Nodup := by
  refine nodup_map_iff.2 fun x y sub same => ?_
  obtain ⟨p, q, sub, eq, eq'⟩ := pair_sublist_filterMap.1 sub
  have nameP := named eq
  have nameQ := named eq'
  obtain ⟨v, wrong⟩ := TypePart.exists_mem_repeated name (Option.isSome_of_eq_some nameQ)
  have told := mem_all_of_repeated sub (Option.isSome_of_eq_some nameP)
    (by rw [nameP, nameQ, same]) wrong
  exact List.not_mem_nil (none_found ▸ told)

/-- Without violations the arguments of each field have different names. -/
lemma argumentsDistinct_of_all_eq_nil (none_found : all d = []) {i : Ident} {body : TypeBody}
    {f : FieldNode} (has : d.HasBody i body) (mem : f ∈ body.fields) :
    (f.arguments.map (·.name.text)).Nodup := by
  refine nodup_map_iff.2 fun a b sub same => ?_
  have told := mem_all_of_part has (Sdl.TypeBody.field_mem_parts.2 mem)
    (mem_ofField.2 (.inr (.inr ⟨a, b, sub, same, rfl⟩)))
  exact List.not_mem_nil (none_found ▸ told)

/-- Without violations every reference is to a type that is known. -/
lemma resolved_of_all_eq_nil (none_found : all d = []) {name referencedFrom : String}
    {position : Position} (refers : d.Refers name referencedFrom position) :
    d.Declares name ∨ name ∈ builtinScalars := by
  rw [← isKnown_iff]
  by_contra unknown
  have told := mem_all_of_refers refers (Bool.eq_false_iff.2 unknown)
  exact List.not_mem_nil (none_found ▸ told)

/-- A document without violations is consistent. -/
lemma consistent_of_all_eq_nil (none_found : all d = []) : d.Consistent := by
  have nodes : ofNodes [] d.typeNodes = [] :=
    List.eq_nil_iff_forall_not_mem.2 fun v mem =>
      List.not_mem_nil (none_found ▸ mem_all.2 (.inl mem))
  refine ⟨definedOnce_of_ofNodes_eq_nil nodes, oneKind_of_ofNodes_eq_nil nodes, ?_, ?_,
    argumentsDistinct_of_all_eq_nil none_found, resolved_of_all_eq_nil none_found⟩
  · intro name
    rw [← filterMap_field?_partsOf]
    exact nodup_select_of_all_eq_nil none_found name TypePart.memberName?_of_field?
  · intro name
    rw [← filterMap_value?_partsOf]
    exact nodup_select_of_all_eq_nil none_found name TypePart.memberName?_of_value?

/-! ## Soundness of violations -/

/-- A wrong reference is something that is wrong with the document. -/
lemma violates_of_mem_ofReference {name referencedFrom : String} {position : Position}
    (refers : d.Refers name referencedFrom position)
    (mem : v ∈ ofReference (isKnown d.typeNames) name referencedFrom position) :
    d.Violates source v.cause (.ofPosition source v.position) := by
  obtain ⟨unknown, rfl⟩ := mem_ofReference.1 mem
  have not_known : ¬(d.Declares name ∨ name ∈ builtinScalars) := by
    rw [← isKnown_iff]
    exact Bool.eq_false_iff.1 unknown
  obtain ⟨undeclared, notBuiltin⟩ := not_or.1 not_known
  exact .undefinedType refers undeclared notBuiltin

/-- So is a wrong type node. -/
lemma violates_of_mem_ofNodes (mem : v ∈ ofNodes [] d.typeNodes) :
    d.Violates source v.cause (.ofPosition source v.position) := by
  obtain ⟨m, n, sub, clash⟩ := clash_of_mem_ofNodes mem
  have before : [m.definition, n.definition].Sublist d.definitions :=
    Document.pair_sublist_typeNodes.1 sub
  cases clash with
  | redefined same base base' =>
    rw [TypeNode.definition, TypeNode.definition, base, base'] at before
    exact .redefinedType before same
  | conflicting same ne => exact .conflictingKind before same ne

/-- So is what is wrong with a part of a body. -/
lemma violates_of_part {i : Ident} {body : TypeBody} {part : TypePart} (has : d.HasBody i body)
    (mem : part ∈ body.parts) (wrong : v ∈ part.violations (isKnown d.typeNames) i.text) :
    d.Violates source v.cause (.ofPosition source v.position) := by
  cases part with
  | interface j =>
    exact violates_of_mem_ofReference
      (.interface has (Sdl.TypeBody.interface_mem_parts.1 mem)) wrong
  | member m =>
    exact violates_of_mem_ofReference (.member has (Sdl.TypeBody.member_mem_parts.1 mem)) wrong
  | value w => cases wrong
  | field f =>
    have memF := Sdl.TypeBody.field_mem_parts.1 mem
    rcases mem_ofField.1 wrong with type | ⟨a, memA, type⟩ | ⟨a, b, sub, same, rfl⟩
    · exact violates_of_mem_ofReference (.fieldType has memF) type
    · exact violates_of_mem_ofReference (.argumentType has memF memA) type
    · exact .redefinedArgument has memF sub same

/-- Two parts of one name are both fields or both values of the type, provided that its types are of
one kind: a field and a value of one name are then in different types. -/
lemma fields_or_values_of_repeated (nodes : ofNodes [] d.typeNodes = []) {name : String}
    {p q : TypePart} (sub : [p, q].Sublist (partsOf d name)) (named : p.memberName?.isSome)
    (same : p.memberName? = q.memberName?) :
    (∃ f g, q = .field g ∧ [f, g].Sublist (d.fieldsOf name) ∧ f.name.text = g.name.text) ∨
      ∃ v w, q = .value w ∧ [v, w].Sublist (d.valuesOf name) ∧ v.text = w.text := by
  obtain ⟨i, b, has, eq, memP⟩ := mem_partsOf.1 (sub.subset List.mem_cons_self)
  obtain ⟨j, c, has', eq', memQ⟩ :=
    mem_partsOf.1 (sub.subset (List.mem_cons_of_mem p List.mem_cons_self))
  have kind : b.kind = c.kind := oneKind_of_ofNodes_eq_nil nodes has has' (eq.trans eq'.symm)
  cases p with
  | interface _ => cases named
  | member _ => cases named
  | field f =>
    cases q with
    | interface _ => cases same
    | member _ => cases same
    | field g =>
      have fields : [f, g].Sublist (d.fieldsOf name) := by
        rw [← filterMap_field?_partsOf]
        exact sub.filterMap TypePart.field?
      exact .inl ⟨f, g, rfl, fields, Option.some.inj same⟩
    | value w =>
      -- bodies of one kind do not have fields as well as values
      have fields := Sdl.TypeBody.kind_of_mem_fields (Sdl.TypeBody.field_mem_parts.1 memP)
      rw [kind, Sdl.TypeBody.kind_of_mem_values (Sdl.TypeBody.value_mem_parts.1 memQ)] at fields
      exact absurd fields (by decide)
  | value w =>
    cases q with
    | interface _ => cases same
    | member _ => cases same
    | field g =>
      have fields := Sdl.TypeBody.kind_of_mem_fields (Sdl.TypeBody.field_mem_parts.1 memQ)
      rw [← kind, Sdl.TypeBody.kind_of_mem_values (Sdl.TypeBody.value_mem_parts.1 memP)] at fields
      exact absurd fields (by decide)
    | value w' =>
      have values : [w, w'].Sublist (d.valuesOf name) := by
        rw [← filterMap_value?_partsOf]
        exact sub.filterMap TypePart.value?
      exact .inr ⟨w, w', rfl, values, Option.some.inj same⟩

/-- What is wrong with a part whose name came before is wrong with the document, provided that its
types are of one kind. -/
lemma violates_of_repeated (nodes : ofNodes [] d.typeNodes = []) {name : String} {p q : TypePart}
    (sub : [p, q].Sublist (partsOf d name)) (named : p.memberName?.isSome)
    (same : p.memberName? = q.memberName?) (wrong : v ∈ q.repeated name) :
    d.Violates source v.cause (.ofPosition source v.position) := by
  rcases fields_or_values_of_repeated nodes sub named same with
    ⟨f, g, rfl, fields, same⟩ | ⟨w, w', rfl, values, same⟩
  · rw [List.mem_singleton.1 wrong]
    exact .redefinedField fields same
  · rw [List.mem_singleton.1 wrong]
    exact .redefinedValue values same

/-- What is wrong with a document whose nodes are fine is wrong with it. -/
lemma violates_of_mem_all (nodes : ofNodes [] d.typeNodes = []) (mem : v ∈ all d) :
    d.Violates source v.cause (.ofPosition source v.position) := by
  rcases mem_all.1 mem with node | ⟨name, -, parts⟩ | ⟨⟨i, arguments⟩, defined, wrong⟩ |
    ⟨roots, defined, wrong⟩
  · exact violates_of_mem_ofNodes node
  · rcases mem_ofParts.1 parts with ⟨part, listed, wrong⟩ | ⟨p, q, sub, named, same, wrong⟩
    · obtain ⟨i, body, has, rfl, memPart⟩ := mem_partsOf.1 listed
      exact violates_of_part has memPart wrong
    · exact violates_of_repeated nodes sub named same wrong
  · obtain ⟨a, memA, type⟩ := List.mem_flatMap.1 wrong
    have definition := Document.mem_directives.1 defined
    exact violates_of_mem_ofReference (.directiveArgument definition memA) type
  · obtain ⟨r, memR, type⟩ := List.mem_flatMap.1 wrong
    obtain ⟨e, p, schema⟩ := Document.mem_schemaNodes.1 defined
    exact violates_of_mem_ofReference (.root schema memR) type

/-- The first violation of a document is wrong with it. Later ones need not be: where definitions of
a type are of different kinds, a value may be told for having the name of a field. -/
lemma violates_of_all_eq_cons {rest : List Violation} (first : all d = v :: rest) :
    d.Violates source v.cause (.ofPosition source v.position) := by
  cases nodes : ofNodes [] d.typeNodes with
  | nil => exact violates_of_mem_all nodes (first ▸ List.mem_cons_self)
  | cons w ws =>
    -- what is wrong with nodes is told before all else
    have same : w = v := by
      rw [all, nodes] at first
      exact (List.cons.inj first).1
    subst same
    exact violates_of_mem_ofNodes (nodes ▸ List.mem_cons_self)

/-- A document is consistent if it has no violations. -/
lemma all_eq_nil_iff : all d = [] ↔ d.Consistent := by
  constructor
  · exact consistent_of_all_eq_nil
  · intro consistent
    cases first : all d with
    | nil => rfl
    | cons v rest =>
      exact (consistent.not_violates (violates_of_all_eq_cons first : d.Violates "" _ _)).elim

end Document

end Violation

/-! ## Tables of documents -/

/-- A table that is built of a document is that of its types and root types. -/
lemma Table.build_eq_ok_iff {d : Document} {source : Option String} {table : Table} :
    Table.build d source = .ok table ↔
      d.Consistent ∧ table = .ofTypes d.types d.roots (d.sourceName source) := by
  rw [← Violation.all_eq_nil_iff, Table.build]
  cases Violation.all d with
  | nil => simp [eq_comm]
  | cons v rest => simp

/-- The problem of a document that gets no table is that of something wrong with it. -/
lemma Table.violates_of_build_eq_error {d : Document} {source : Option String} {p : Problem}
    (failed : Table.build d source = .error p) :
    d.Violates (d.sourceName source) p.cause p.span := by
  rw [Table.build] at failed
  cases first : Violation.all d with
  | nil => simp [first] at failed
  | cons v rest =>
    obtain ⟨cause, span⟩ := v.toProblem_cause_span d (d.sourceName source)
    rw [first] at failed
    cases failed
    rw [cause, span]
    exact Violation.violates_of_all_eq_cons first

/-- A table is built of a document just if its definitions make a schema. The problem of any other
document is one of the document, by its cause and by its place. -/
theorem Table.build_ok_iff_consistent (d : Document) (source : Option String) :
    ((∃ table, Table.build d source = .ok table) ↔ d.Consistent) ∧
      ∀ p, Table.build d source = .error p →
        d.Violates (d.sourceName source) p.cause p.span := by
  rw [← Violation.all_eq_nil_iff, Table.build]
  cases first : Violation.all d with
  | nil => exact ⟨by simp, fun p failed => by cases failed⟩
  | cons v rest =>
    refine ⟨by simp, fun p failed => ?_⟩
    obtain ⟨cause, span⟩ := v.toProblem_cause_span d (d.sourceName source)
    cases failed
    rw [cause, span]
    exact Violation.violates_of_all_eq_cons first

/-- A document that extends a type before it defines it and refers to a type that it does not
declare. -/
def danglingDocument : Document where
  definitions := [
    .type true ⟨"User", ⟨1, 13⟩⟩
      (.object [] [⟨⟨"team", ⟨2, 3⟩⟩, [], .named ⟨"Team", ⟨2, 9⟩⟩ false⟩]),
    .type false ⟨"User", ⟨4, 6⟩⟩
      (.object [] [⟨⟨"id", ⟨5, 3⟩⟩, [], .named ⟨"ID", ⟨5, 7⟩⟩ true⟩])]
  origin := none

/-- The problem of a document with a reference to nothing is that reference. -/
theorem Table.build_ok_iff_consistent_dangling :
    ∃ p, Table.build danglingDocument none = .error p ∧
      p.cause = .undefinedType "Team" "User.team" ∧ p.span = ⟨"<schema>", 2, 9⟩ ∧
      danglingDocument.Violates "<schema>" p.cause p.span := by
  let v : Violation := .undefinedType "Team" "User.team" ⟨2, 9⟩
  have failed : Table.build danglingDocument none =
      .error (v.toProblem danglingDocument "<schema>") := rfl
  obtain ⟨cause, span⟩ := v.toProblem_cause_span danglingDocument "<schema>"
  exact ⟨_, failed, cause, span, (Table.build_ok_iff_consistent danglingDocument none).2 _ failed⟩

end SchemaLint

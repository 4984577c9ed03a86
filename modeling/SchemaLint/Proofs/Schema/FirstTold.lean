import Mathlib
import SchemaLint.Proofs.Schema.Told
import SchemaLint.Proofs.Sdl.Readers

/-!
# The violation that is told

A document has violations just if it is not consistent: `Violation.exists_breaks_iff`. It gets no
table then but the problem of one of them, which is the one that stands first among those of the first
stage that has any: `Table.build_tells_first`. It need not stand in front of those of later stages:
`Table.build_tells_later`.
-/

namespace SchemaLint

open Sdl (Document Ident Position TypeBody)

namespace Violation

variable {d : Document}

/-- A name is not known if it cannot be resolved. -/
lemma isKnown_eq_false_iff {name : String} :
    isKnown d.typeNames name = false ↔ d.Unresolved name := by
  rw [Document.Unresolved, ← not_or, ← isKnown_iff, Bool.not_eq_true]

/-- A reference to a type that cannot be resolved is wrong. -/
lemma mem_ofReference_of_unresolved {name : String} (unresolved : d.Unresolved name)
    (referencedFrom : String) (position : Position) :
    .undefinedType name referencedFrom position ∈
      ofReference (isKnown d.typeNames) name referencedFrom position :=
  Violation.mem_ofReference.2 ⟨isKnown_eq_false_iff.2 unresolved, rfl⟩

/-- What is told of the parts of a type is wrong with a part, with its arguments, or with the name
of a member. -/
lemma mem_toldParts {known : String → Bool} {owner : String} {first : Position}
    {parts : List TypePart} {s : Stage} {v : Violation} :
    (s, v) ∈ toldParts known owner first parts ↔
      (∃ p ∈ parts, s = .part first p.position false ∧ v ∈ p.ownViolations known owner) ∨
      (∃ p ∈ parts, s = .part first p.position true ∧ v ∈ p.argumentViolations known owner) ∨
      ∃ p q, [p, q].Sublist parts ∧ p.memberName?.isSome ∧ p.memberName? = q.memberName? ∧
        s = .part first q.position false ∧ v ∈ q.repeated owner := by
  rw [toldParts, mem_scan_nil]
  simp only [List.mem_append, mem_map_mk, and_or_left, exists_or, or_assoc]

/-- What is told of a document is told in one of four passes. -/
lemma mem_told {x : Stage × Violation} : x ∈ told d ↔ ∃ n < 4, x ∈ toldIn d n := by
  simp only [told, List.mem_flatMap, List.mem_range]

section Told
variable {s : Stage} {v : Violation} {i : Ident} {body : TypeBody} {p : TypePart}

/-- A violation of nodes is a clash of one with an earlier one. -/
lemma breaks_nodes_iff :
    d.Breaks .nodes v ↔ ∃ m n, [m, n].Sublist d.typeNodes ∧ m.Clash n v := by
  constructor
  · intro broken
    cases broken with
    | @redefinedType i j b c sub same =>
      exact ⟨⟨false, i, b⟩, ⟨false, j, c⟩, Document.pair_sublist_typeNodes.2 sub,
        .redefined same rfl rfl⟩
    | @conflictingKind e e' i j b c sub same ne =>
      exact ⟨⟨e, i, b⟩, ⟨e', j, c⟩, Document.pair_sublist_typeNodes.2 sub, .conflicting same ne⟩
  · rintro ⟨m, n, sub, clash⟩
    have before : [m.definition, n.definition].Sublist d.definitions :=
      Document.pair_sublist_typeNodes.1 sub
    cases clash with
    | redefined same base base' =>
      rw [TypeNode.definition, TypeNode.definition, base, base'] at before
      exact .redefinedType before same
    | conflicting same ne => exact .conflictingKind before same ne

/-- What is wrong with a part itself breaks the document in the stage of the part. -/
lemma breaks_of_own (has : d.HasBody i body) (mem : p ∈ body.parts)
    (wrong : v ∈ p.ownViolations (isKnown d.typeNames) i.text) :
    d.Breaks (.part (d.firstPlace i.text) p.position false) v := by
  cases p with
  | interface m =>
    obtain ⟨unknown, rfl⟩ := mem_ofReference.1 wrong
    exact .interface has (TypeBody.interface_mem_parts.1 mem) (isKnown_eq_false_iff.1 unknown)
  | member m =>
    obtain ⟨unknown, rfl⟩ := mem_ofReference.1 wrong
    exact .member has (TypeBody.member_mem_parts.1 mem) (isKnown_eq_false_iff.1 unknown)
  | field f =>
    obtain ⟨unknown, rfl⟩ := mem_ofReference.1 wrong
    exact .fieldType has (TypeBody.field_mem_parts.1 mem) (isKnown_eq_false_iff.1 unknown)
  | value w => cases wrong

/-- What is wrong with the arguments of a part breaks the document in their stage. -/
lemma breaks_of_arguments (has : d.HasBody i body) (mem : p ∈ body.parts)
    (wrong : v ∈ p.argumentViolations (isKnown d.typeNames) i.text) :
    d.Breaks (.part (d.firstPlace i.text) p.position true) v := by
  cases p with
  | interface _ => cases wrong
  | member _ => cases wrong
  | value _ => cases wrong
  | field f =>
    have memF := TypeBody.field_mem_parts.1 mem
    rcases mem_ofArguments.1 wrong with ⟨a, memA, wrong⟩ | ⟨a, b, sub, same, rfl⟩
    · obtain ⟨unknown, rfl⟩ := mem_ofReference.1 wrong
      exact .argumentType has memF memA (isKnown_eq_false_iff.1 unknown)
    · exact .redefinedArgument has memF sub same

/-- What is told of a document whose nodes are fine is wrong with it. -/
lemma breaks_of_mem_told (nodes : ofNodes [] d.typeNodes = []) (mem : (s, v) ∈ told d) :
    d.Breaks s v := by
  obtain ⟨n, lt, mem⟩ := mem_told.1 mem
  match n with
  | 0 =>
    rw [toldIn, nodes] at mem
    cases mem
  | 1 =>
    obtain ⟨name, -, mem⟩ := List.mem_flatMap.1 mem
    rcases mem_toldParts.1 mem with ⟨p, listed, rfl, wrong⟩ | ⟨p, listed, rfl, wrong⟩ |
      ⟨p, q, sub, named, same, rfl, wrong⟩
    · obtain ⟨i, body, has, rfl, memPart⟩ := mem_partsOf.1 listed
      exact breaks_of_own has memPart wrong
    · obtain ⟨i, body, has, rfl, memPart⟩ := mem_partsOf.1 listed
      exact breaks_of_arguments has memPart wrong
    · rcases fields_or_values_of_repeated nodes sub named same with
        ⟨f, g, rfl, fields, same⟩ | ⟨w, w', rfl, values, same⟩
      · rw [List.mem_singleton.1 wrong]
        exact .redefinedField fields same
      · rw [List.mem_singleton.1 wrong]
        exact .redefinedValue values same
  | 2 =>
    obtain ⟨rfl, listed⟩ := mem_map_mk.1 mem
    obtain ⟨⟨i, arguments⟩, defined, wrong⟩ := List.mem_flatMap.1 listed
    obtain ⟨a, memA, wrong⟩ := List.mem_flatMap.1 wrong
    obtain ⟨unknown, rfl⟩ := mem_ofReference.1 wrong
    exact .directiveArgument (Document.mem_directives.1 defined) memA
      (isKnown_eq_false_iff.1 unknown)
  | 3 =>
    obtain ⟨rfl, listed⟩ := mem_map_mk.1 mem
    obtain ⟨roots, defined, wrong⟩ := List.mem_flatMap.1 listed
    obtain ⟨r, memR, wrong⟩ := List.mem_flatMap.1 wrong
    obtain ⟨unknown, rfl⟩ := mem_ofReference.1 wrong
    obtain ⟨e, p, schema⟩ := Document.mem_schemaNodes.1 defined
    exact .root schema memR (isKnown_eq_false_iff.1 unknown)
  | n + 4 => omega

/-- What is told of the parts of a type is told of the document. -/
lemma mem_told_of_part {name : String} (listed : p ∈ partsOf d name)
    (mem : (s, v) ∈ toldParts (isKnown d.typeNames) name (d.firstPlace name) (partsOf d name)) :
    (s, v) ∈ told d := by
  obtain ⟨i, body, has, rfl, -⟩ := mem_partsOf.1 listed
  have declared : i.text ∈ d.typeNames := Document.mem_typeNames.2 ⟨i, body, has, rfl⟩
  exact mem_told.2 ⟨1, by decide, List.mem_flatMap.2 ⟨i.text, declared, mem⟩⟩

/-- What is wrong with a part itself is told. -/
lemma mem_told_of_own (has : d.HasBody i body) (mem : p ∈ body.parts)
    (wrong : v ∈ p.ownViolations (isKnown d.typeNames) i.text) :
    (.part (d.firstPlace i.text) p.position false, v) ∈ told d := by
  have listed : p ∈ partsOf d i.text := mem_partsOf.2 ⟨i, body, has, rfl, mem⟩
  exact mem_told_of_part listed (mem_toldParts.2 (.inl ⟨p, listed, rfl, wrong⟩))

/-- What is wrong with the arguments of a part is told. -/
lemma mem_told_of_arguments (has : d.HasBody i body) (mem : p ∈ body.parts)
    (wrong : v ∈ p.argumentViolations (isKnown d.typeNames) i.text) :
    (.part (d.firstPlace i.text) p.position true, v) ∈ told d := by
  have listed : p ∈ partsOf d i.text := mem_partsOf.2 ⟨i, body, has, rfl, mem⟩
  exact mem_told_of_part listed (mem_toldParts.2 (.inr (.inl ⟨p, listed, rfl, wrong⟩)))

/-- A member with a name twice is told. -/
lemma mem_told_of_repeated {name : String} {q : TypePart} (sub : [p, q].Sublist (partsOf d name))
    (named : p.memberName?.isSome) (same : p.memberName? = q.memberName?)
    (wrong : v ∈ q.repeated name) :
    (.part (d.firstPlace name) q.position false, v) ∈ told d :=
  mem_told_of_part (sub.subset List.mem_cons_self)
    (mem_toldParts.2 (.inr (.inr ⟨p, q, sub, named, same, rfl, wrong⟩)))

/-- What is wrong with a document, apart from its nodes, is told. -/
lemma mem_told_of_breaks (broken : d.Breaks s v) (later : s ≠ .nodes) : (s, v) ∈ told d := by
  cases broken with
  | redefinedType _ _ => exact absurd rfl later
  | conflictingKind _ _ _ => exact absurd rfl later
  | @redefinedField name f g sub same =>
    rw [← filterMap_field?_partsOf] at sub
    obtain ⟨p, q, sub, eq, eq'⟩ := pair_sublist_filterMap.1 sub
    obtain rfl := TypePart.field?_eq_some_iff.1 eq
    obtain rfl := TypePart.field?_eq_some_iff.1 eq'
    exact mem_told_of_repeated sub rfl (congrArg some same) (List.mem_singleton_self _)
  | @redefinedValue name v w sub same =>
    rw [← filterMap_value?_partsOf] at sub
    obtain ⟨p, q, sub, eq, eq'⟩ := pair_sublist_filterMap.1 sub
    obtain rfl := TypePart.value?_eq_some_iff.1 eq
    obtain rfl := TypePart.value?_eq_some_iff.1 eq'
    exact mem_told_of_repeated sub rfl (congrArg some same) (List.mem_singleton_self _)
  | redefinedArgument has mem sub same =>
    exact mem_told_of_arguments has (TypeBody.field_mem_parts.2 mem)
      (mem_ofArguments.2 (.inr ⟨_, _, sub, same, rfl⟩))
  | fieldType has mem unresolved =>
    exact mem_told_of_own has (TypeBody.field_mem_parts.2 mem) (mem_ofReference_of_unresolved unresolved _ _)
  | argumentType has mem memA unresolved =>
    exact mem_told_of_arguments has (TypeBody.field_mem_parts.2 mem)
      (mem_ofArguments.2 (.inl ⟨_, memA, mem_ofReference_of_unresolved unresolved _ _⟩))
  | interface has mem unresolved =>
    exact mem_told_of_own has (TypeBody.interface_mem_parts.2 mem)
      (mem_ofReference_of_unresolved unresolved _ _)
  | member has mem unresolved =>
    exact mem_told_of_own has (TypeBody.member_mem_parts.2 mem) (mem_ofReference_of_unresolved unresolved _ _)
  | @directiveArgument i arguments a defined mem unresolved =>
    have wrong : _ ∈ ofDirective (isKnown d.typeNames) (i, arguments) :=
      List.mem_flatMap.2 ⟨a, mem, mem_ofReference_of_unresolved unresolved _ _⟩
    exact mem_told.2 ⟨2, by decide, mem_map_mk.2 ⟨rfl, List.mem_flatMap.2
      ⟨_, Document.mem_directives.2 defined, wrong⟩⟩⟩
  | @root e p roots r defined mem unresolved =>
    have wrong : _ ∈ ofRoots (isKnown d.typeNames) roots :=
      List.mem_flatMap.2 ⟨r, mem, mem_ofReference_of_unresolved unresolved _ _⟩
    exact mem_told.2 ⟨3, by decide, mem_map_mk.2 ⟨rfl, List.mem_flatMap.2
      ⟨_, Document.mem_schemaNodes.2 ⟨_, _, defined⟩, wrong⟩⟩⟩

/-- Up to the first node that something is wrong with, nodes do not clash. -/
lemma exists_of_ofNodes_eq_cons {earlier nodes : List TypeNode} {rest : List Violation}
    (found : ofNodes earlier nodes = v :: rest) :
    ∃ front n back, nodes = front ++ n :: back ∧ ofNodes earlier front = [] ∧
      v.position = n.name.position := by
  induction nodes generalizing earlier with
  | nil => cases found
  | cons n nodes ih =>
    cases here : ofNode earlier n with
    | nil =>
      rw [ofNodes, here, List.nil_append] at found
      obtain ⟨front, m, back, rfl, clean, position⟩ := ih found
      refine ⟨n :: front, m, back, rfl, ?_, position⟩
      rw [ofNodes, here, clean]
      rfl
    | cons w ws =>
      rw [ofNodes, here] at found
      obtain ⟨rfl, -⟩ := List.cons.inj found
      have positions := positions_ofNode earlier n
      rw [here] at positions
      exact ⟨[], n, nodes, rfl, rfl,
        List.mem_singleton.1 (positions.subset List.mem_cons_self)⟩

/-- No clash of nodes stands in front of the one that is told. -/
lemma not_before_of_ofNodes_eq_cons (located : d.Located) {w : Violation} {rest : List Violation}
    (found : ofNodes [] d.typeNodes = v :: rest) (broken : d.Breaks .nodes w) :
    ¬w.position.Before v.position := by
  intro before
  obtain ⟨front, n₀, back, split, clean, position⟩ := exists_of_ofNodes_eq_cons found
  obtain ⟨m, n, sub, clash⟩ := breaks_nodes_iff.1 broken
  have stands : w.position = n.name.position := by
    cases clash <;> rfl
  rw [stands, position] at before
  have order := List.pairwise_map.1 located.pairwise_typeNodes
  rw [split] at order sub
  obtain ⟨-, tail, apart⟩ := List.pairwise_append.1 order
  obtain ⟨ms, ns, eq, sub_front, sub_back⟩ := List.sublist_append_iff.1 sub
  rcases List.eq_nil_or_concat ns with rfl | ⟨xs, x, rfl⟩
  · -- both nodes are in front of the one that is told
    have apart := pairwise_not_clash .nil clean
    rw [List.append_nil] at eq
    exact List.pairwise_iff_forall_sublist.1 apart (eq ▸ sub_front) _ clash
  · -- the later one is that node or stands behind it
    have last : x = n := by simpa using (congrArg List.getLast? eq).symm
    have mem : n ∈ n₀ :: back := sub_back.subset (by simp [last])
    rcases List.mem_cons.1 mem with rfl | behind
    · exact Position.not_before_self _ before
    · exact before.not_before ((List.pairwise_cons.1 tail).1 n behind)

/-- Of a document whose nodes are fine, all that is wrong is told. -/
lemma mem_told_of_nodes (nodes : ofNodes [] d.typeNodes = []) (broken : d.Breaks s v) :
    (s, v) ∈ told d := by
  refine mem_told_of_breaks broken ?_
  rintro rfl
  obtain ⟨m, n, sub, clash⟩ := breaks_nodes_iff.1 broken
  exact not_clash_of_ofNodes_eq_nil nodes sub clash

/-- A wrong type node breaks the document in the first stage. -/
lemma breaks_of_ofNodes_eq_cons {rest : List Violation}
    (nodes : ofNodes [] d.typeNodes = v :: rest) : d.Breaks .nodes v := by
  obtain ⟨m, n, sub, clash⟩ := clash_of_mem_ofNodes (nodes ▸ List.mem_cons_self)
  exact breaks_nodes_iff.2 ⟨m, n, sub, clash⟩

/-- Something is wrong with a document just if its definitions make no schema. -/
lemma exists_breaks_iff : (∃ s v, d.Breaks s v) ↔ ¬d.Consistent := by
  rw [← all_eq_nil_iff, ← map_snd_told, List.map_eq_nil_iff]
  cases nodes : ofNodes [] d.typeNodes with
  | cons v rest =>
    refine iff_of_true ⟨.nodes, v, breaks_of_ofNodes_eq_cons nodes⟩ fun none_told => ?_
    have listed : (.nodes, v) ∈ told d :=
      mem_told.2 ⟨0, by decide, mem_map_mk.2 ⟨rfl, nodes ▸ List.mem_cons_self⟩⟩
    exact List.not_mem_nil (none_told ▸ listed)
  | nil =>
    constructor
    · rintro ⟨s, v, broken⟩ none_told
      exact List.not_mem_nil (none_told ▸ mem_told_of_nodes nodes broken)
    · intro some_told
      obtain ⟨⟨s, v⟩, mem⟩ := List.exists_mem_of_ne_nil _ some_told
      exact ⟨s, v, breaks_of_mem_told nodes mem⟩

/-- One of the violations of a document is the first that is told, and none precedes it. -/
lemma exists_first (located : d.Located) (broken : d.Breaks s v) :
    ∃ s v rest, d.Breaks s v ∧ all d = v :: rest ∧
      ∀ t w, d.Breaks t w → ¬Precedes (t, w) (s, v) := by
  cases nodes : ofNodes [] d.typeNodes with
  | cons v rest =>
    refine ⟨.nodes, v, _, breaks_of_ofNodes_eq_cons nodes, by rw [all, nodes]; rfl, ?_⟩
    rintro t w broken (before | ⟨rfl, before⟩)
    · cases before with
      | pass lt => exact Nat.not_lt_zero _ lt
    · exact not_before_of_ofNodes_eq_cons located nodes broken before
  | nil =>
    have order := pairwise_told located
    have violations := map_snd_told d
    cases eq : told d with
    | nil => exact absurd (mem_told_of_nodes nodes broken) (eq ▸ List.not_mem_nil)
    | cons x rest =>
      rw [eq] at order violations
      refine ⟨x.1, x.2, rest.map Prod.snd, breaks_of_mem_told nodes (eq ▸ List.mem_cons_self),
        violations.symm, fun t w broken precedes => ?_⟩
      rcases List.mem_cons.1 (eq ▸ mem_told_of_nodes nodes broken) with rfl | later
      · exact precedes.not_precedes precedes
      · exact precedes.not_precedes ((List.pairwise_cons.1 order).1 _ later)

end Told

end Violation

/-- Places in one source are different if their positions are. -/
lemma Span.eq_of_ofPosition_eq {source : String} {p q : Position}
    (same : Span.ofPosition source p = .ofPosition source q) : p = q := by
  obtain ⟨-, line, column⟩ := Span.mk.inj same
  obtain ⟨line', column'⟩ := p
  obtain rfl := Int.ofNat.inj line
  obtain rfl := Int.ofNat.inj column
  rfl

/-- Violations with the same problem stand at the same place. -/
lemma Violation.position_of_toProblem_eq {d : Document} {source : String} {v w : Violation}
    (same : v.toProblem d source = w.toProblem d source) : v.position = w.position := by
  have spans : (v.toProblem d source).span = (w.toProblem d source).span := by rw [same]
  rw [(v.toProblem_cause_span d source).2, (w.toProblem_cause_span d source).2] at spans
  exact Span.eq_of_ofPosition_eq spans

/-- The problem of a located document that has violations is that of one of them. None of an earlier
stage is there, and none of its stage stands in front of it. So it stands where a violation stands
that is of the first stage and in front of all others. -/
theorem Table.build_tells_first {d : Document} {source : Option String} (located : d.Located)
    {t : Stage} {w : Violation} (broken : d.Breaks t w) :
    ∃ s v, d.Breaks s v ∧ Table.build d source = .error (v.toProblem d (d.sourceName source)) ∧
      (∀ t w, d.Breaks t w → ¬Violation.Precedes (t, w) (s, v)) ∧
      ((∀ t' w', d.Breaks t' w' → ¬t'.Before t ∧ ¬w'.position.Before w.position) →
        v.position = w.position) := by
  obtain ⟨s, v, rest, broken', first, foremost⟩ := Violation.exists_first located broken
  refine ⟨s, v, broken', ?_, foremost, fun alone => ?_⟩
  · rw [Table.build, first]
  · have stage : s = t := Stage.eq_of_not_before (alone s v broken').1
      fun before => foremost t w broken (.inl before)
    exact Position.eq_of_not_before (alone s v broken').2
      fun before => foremost t w broken (.inr ⟨stage.symm, before⟩)

/-- A directive and a field of types that are not there, and another field of the name. -/
def lostTypes : String := "directive @on(x: Lost) on FIELD\ntype Query \x7b a: Nope a: Int \x7d"

/-- What is read of `lostTypes`. -/
def lostDocument : Document where
  definitions := [
    .directive false ⟨"on", ⟨1, 12⟩⟩ [⟨⟨"x", ⟨1, 15⟩⟩, .named ⟨"Lost", ⟨1, 18⟩⟩ false⟩],
    .type false ⟨"Query", ⟨2, 6⟩⟩ (.object [] [
      ⟨⟨"a", ⟨2, 14⟩⟩, [], .named ⟨"Nope", ⟨2, 17⟩⟩ false⟩,
      ⟨⟨"a", ⟨2, 22⟩⟩, [], .named ⟨"Int", ⟨2, 25⟩⟩ false⟩])]
  origin := some ⟨"schema.graphql", (Sdl.lex lostTypes).tokens⟩

/-- Of the violations of `lostTypes`, the type of the field is told. -/
theorem Table.build_tells_first_lostTypes :
    Document.read lostTypes "schema.graphql" = .ok lostDocument ∧
      ∃ s v, lostDocument.Breaks s v ∧ v.position = ⟨2, 17⟩ ∧
        Table.build lostDocument none = .error (v.toProblem lostDocument "schema.graphql") ∧
        ∀ t w, lostDocument.Breaks t w → ¬Violation.Precedes (t, w) (s, v) := by
  have read : Document.read lostTypes "schema.graphql" = .ok lostDocument :=
    toOption_eq_some_iff.1 (by decide +kernel)
  have unresolved : lostDocument.Unresolved "Lost" :=
    Violation.isKnown_eq_false_iff.1 (by decide +kernel)
  have lost := Document.Breaks.directiveArgument (d := lostDocument) (i := ⟨"on", ⟨1, 12⟩⟩)
    (a := ⟨⟨"x", ⟨1, 15⟩⟩, .named ⟨"Lost", ⟨1, 18⟩⟩ false⟩) List.mem_cons_self List.mem_cons_self
    unresolved
  obtain ⟨s, v, broken, told, foremost, -⟩ :=
    @Table.build_tells_first lostDocument none (Document.located_of_read read) _ _ lost
  have nope : Table.build lostDocument none = .error
      ((Violation.undefinedType "Nope" "Query.a" ⟨2, 17⟩).toProblem lostDocument "schema.graphql") :=
    rfl
  have same := Except.error.inj (told.symm.trans nope)
  refine ⟨read, s, v, broken, ?_, told, foremost⟩
  exact Violation.position_of_toProblem_eq same

/-- Two definitions of a type, of which the first has a field of a type that is not there. -/
def redefinedTypes : String :=
  "type Query \x7b a: Nope \x7d\ntype Query \x7b b: Int \x7d"

/-- What is read of `redefinedTypes`. -/
def redefinedDocument : Document where
  definitions := [
    .type false ⟨"Query", ⟨1, 6⟩⟩
      (.object [] [⟨⟨"a", ⟨1, 14⟩⟩, [], .named ⟨"Nope", ⟨1, 17⟩⟩ false⟩]),
    .type false ⟨"Query", ⟨2, 6⟩⟩
      (.object [] [⟨⟨"b", ⟨2, 14⟩⟩, [], .named ⟨"Int", ⟨2, 17⟩⟩ false⟩])]
  origin := some ⟨"schema.graphql", (Sdl.lex redefinedTypes).tokens⟩

/-- The violation that is told need not be the one that stands first in the document. -/
theorem Table.build_tells_later :
    ¬∀ (text source : String) (d : Document), Document.read text source = .ok d →
      (∃ t w, d.Breaks t w) →
      ∃ s v, d.Breaks s v ∧ Table.build d none = .error (v.toProblem d source) ∧
        ∀ t w, d.Breaks t w → ¬w.position.Before v.position := by
  intro tells_first
  have read : Document.read redefinedTypes "schema.graphql" = .ok redefinedDocument :=
    toOption_eq_some_iff.1 (by decide +kernel)
  have unresolved : redefinedDocument.Unresolved "Nope" :=
    Violation.isKnown_eq_false_iff.1 (by decide +kernel)
  have nope := Document.Breaks.fieldType (d := redefinedDocument)
    (i := ⟨"Query", ⟨1, 6⟩⟩) (f := ⟨⟨"a", ⟨1, 14⟩⟩, [], .named ⟨"Nope", ⟨1, 17⟩⟩ false⟩)
    ⟨false, List.mem_cons_self⟩ List.mem_cons_self unresolved
  obtain ⟨s, v, -, told, first⟩ := tells_first _ _ _ read ⟨_, _, nope⟩
  have redefined : Table.build redefinedDocument none = .error
      ((Violation.redefinedType ⟨"Query", ⟨2, 6⟩⟩ ⟨"Query", ⟨1, 6⟩⟩).toProblem redefinedDocument
        "schema.graphql") := rfl
  have same := Violation.position_of_toProblem_eq (Except.error.inj (told.symm.trans redefined))
  rw [same] at first
  exact first _ _ nope (by decide)

end SchemaLint

import Mathlib
import SchemaLint.Proofs.Schema.Consistent

/-!
# Violations

What the list of all violations of a document holds, one part of it after the other: those of the
nodes of types, which are compared with earlier nodes, and those of the parts of each type, which
are gone through by name.
-/

namespace SchemaLint

open Sdl (ArgumentNode Document FieldNode Ident Position TypeBody)

namespace Violation

/-! ## Names that come twice -/

section Scan
variable {α γ : Type} (key : α → Option String) (twice other : α → List γ)

/-- Goes through a list, of which the keys in `seen` came before: what `twice` says of an element
whose key has been seen, and what `other` says of each. -/
def scan : List String → List α → List γ
  | _, [] => []
  | seen, x :: rest =>
    (if (key x).any seen.contains then twice x else []) ++ other x ++
      scan ((key x).toList ++ seen) rest

variable {key twice other}

/-- What is said of an element by its own, of one whose key came before the list, or of the second
of two with one key. -/
lemma mem_scan {v : γ} {seen : List String} {xs : List α} :
    v ∈ scan key twice other seen xs ↔
      (∃ x ∈ xs, v ∈ other x) ∨
      (∃ x ∈ xs, ∃ k ∈ seen, key x = some k ∧ v ∈ twice x) ∨
      ∃ x y, [x, y].Sublist xs ∧ ∃ k, key x = some k ∧ key y = some k ∧ v ∈ twice y := by
  induction xs generalizing seen with
  | nil => simp [scan]
  | cons z xs ih =>
    have seen_before : v ∈ (if (key z).any seen.contains then twice z else []) ↔
        ∃ k ∈ seen, key z = some k ∧ v ∈ twice z := by
      cases key z <;> simp
    simp only [scan, List.mem_append, ih, seen_before, Option.mem_toList]
    -- for the rest of the list, the key of its head is one more that came before
    constructor
    · rintro ((⟨k, mem, eq, twice_z⟩ | other_z) | ⟨x, mem, other_x⟩ |
        ⟨x, mem, k, eq_z | seen_k, eq, twice_x⟩ | ⟨x, y, sub, k, eq_x, eq_y, twice_y⟩)
      · exact .inr (.inl ⟨z, List.mem_cons_self, k, mem, eq, twice_z⟩)
      · exact .inl ⟨z, List.mem_cons_self, other_z⟩
      · exact .inl ⟨x, List.mem_cons_of_mem z mem, other_x⟩
      · exact .inr (.inr ⟨z, x, pair_sublist_cons.2 (.inl ⟨rfl, mem⟩), k, eq_z, eq, twice_x⟩)
      · exact .inr (.inl ⟨x, List.mem_cons_of_mem z mem, k, seen_k, eq, twice_x⟩)
      · exact .inr (.inr ⟨x, y, sub.cons z, k, eq_x, eq_y, twice_y⟩)
    · rintro (⟨x, mem, other_x⟩ | ⟨x, mem, k, seen_k, eq, twice_x⟩ |
        ⟨x, y, sub, k, eq_x, eq_y, twice_y⟩)
      · rcases List.mem_cons.1 mem with rfl | mem
        · exact .inl (.inr other_x)
        · exact .inr (.inl ⟨x, mem, other_x⟩)
      · rcases List.mem_cons.1 mem with rfl | mem
        · exact .inl (.inl ⟨k, seen_k, eq, twice_x⟩)
        · exact .inr (.inr (.inl ⟨x, mem, k, .inr seen_k, eq, twice_x⟩))
      · rcases pair_sublist_cons.1 sub with ⟨rfl, mem⟩ | sub
        · exact .inr (.inr (.inl ⟨y, mem, k, .inl eq_x, eq_y, twice_y⟩))
        · exact .inr (.inr (.inr ⟨x, y, sub, k, eq_x, eq_y, twice_y⟩))

/-- A scan finds what is wrong with single elements, and with pairs of one key. -/
lemma mem_scan_nil {v : γ} {xs : List α} :
    v ∈ scan key twice other [] xs ↔
      (∃ x ∈ xs, v ∈ other x) ∨
      ∃ x y, [x, y].Sublist xs ∧ (key x).isSome ∧ key x = key y ∧ v ∈ twice y := by
  rw [mem_scan]
  simp only [List.not_mem_nil, false_and, exists_false, and_false, false_or]
  refine or_congr_right (exists₂_congr fun x y => and_congr_right fun _ => ?_)
  cases key x <;> simp [eq_comm]

end Scan

/-! ## Parts of a type -/

section Parts
variable {known : String → Bool} {v : Violation}

/-- A reference is wrong if it is to an unknown type. -/
lemma mem_ofReference {name referencedFrom : String} {position : Position} :
    v ∈ ofReference known name referencedFrom position ↔
      known name = false ∧ v = .undefinedType name referencedFrom position := by
  cases eq : known name <;> simp [ofReference, eq]

/-- What is wrong with arguments is found by a scan for their names. -/
lemma ofArguments_eq_scan (owner field : String) (seen : List String) (as : List ArgumentNode) :
    ofArguments known owner field seen as =
      scan (fun a => some a.name.text)
        (fun a => [.redefinedMember .argument s!"{owner}.{field}" a.name])
        (fun a => ofReference known a.type.core.1.text s!"{owner}.{field}({a.name.text})"
          a.type.position) seen as := by
  induction as generalizing seen with
  | nil => rfl
  | cons a as ih =>
    rw [ofArguments, ih]
    rfl

/-- Arguments refer to unknown types, or have a name twice. -/
lemma mem_ofArguments {owner field : String} {as : List ArgumentNode} :
    v ∈ ofArguments known owner field [] as ↔
      (∃ a ∈ as, v ∈ ofReference known a.type.core.1.text s!"{owner}.{field}({a.name.text})"
        a.type.position) ∨
      ∃ a b, [a, b].Sublist as ∧ a.name.text = b.name.text ∧
        v = .redefinedMember .argument s!"{owner}.{field}" b.name := by
  rw [ofArguments_eq_scan, mem_scan_nil]
  simp only [Option.isSome_some, true_and, Option.some.injEq, List.mem_singleton]

/-- A field refers to an unknown type, or something is wrong with its arguments. -/
lemma mem_ofField {owner : String} {f : FieldNode} :
    v ∈ ofField known owner f ↔
      v ∈ ofReference known f.type.core.1.text s!"{owner}.{f.name.text}" f.type.position ∨
      (∃ a ∈ f.arguments, v ∈ ofReference known a.type.core.1.text
        s!"{owner}.{f.name.text}({a.name.text})" a.type.position) ∨
      ∃ a b, [a, b].Sublist f.arguments ∧ a.name.text = b.name.text ∧
        v = .redefinedMember .argument s!"{owner}.{f.name.text}" b.name := by
  rw [ofField, List.mem_append, mem_ofArguments]

end Parts

end Violation

namespace TypePart

/-- The field that a part is. -/
def field? : TypePart → Option FieldNode
  | .field f => some f
  | _ => none

/-- The value that a part is. -/
def value? : TypePart → Option Ident
  | .value v => some v
  | _ => none

/-- The name of a part of which a type must not have two. -/
def memberName? : TypePart → Option String
  | .field f => some f.name.text
  | .value v => some v.text
  | .interface _ | .member _ => none

/-- What is wrong with a part whose name came before. -/
def repeated (owner : String) : TypePart → List Violation
  | .field f => [.redefinedMember .field owner f.name]
  | .value v => [.redefinedMember .enumValue owner v]
  | .interface _ | .member _ => []

/-- What is wrong with a part, apart from its name. -/
def violations (known : String → Bool) (owner : String) : TypePart → List Violation
  | .interface i => Violation.ofReference known i.text owner i.position
  | .member m => Violation.ofReference known m.text owner m.position
  | .field f => Violation.ofField known owner f
  | .value _ => []

/-- The name of a field is that of a member. -/
lemma memberName?_of_field? {part : TypePart} {f : FieldNode} (eq : part.field? = some f) :
    part.memberName? = some f.name.text := by
  cases part with
  | field g => rw [Option.some.inj eq, memberName?]
  | value _ => cases eq
  | interface _ => cases eq
  | member _ => cases eq

/-- The name of a value is that of a member. -/
lemma memberName?_of_value? {part : TypePart} {v : Ident} (eq : part.value? = some v) :
    part.memberName? = some v.text := by
  cases part with
  | value w => rw [Option.some.inj eq, memberName?]
  | field _ => cases eq
  | interface _ => cases eq
  | member _ => cases eq

/-- A part with the name of a member violates something if it is repeated. -/
lemma exists_mem_repeated {part : TypePart} (owner : String) (named : part.memberName?.isSome) :
    ∃ v, v ∈ part.repeated owner := by
  cases part with
  | field _ => exact ⟨_, List.mem_singleton_self _⟩
  | value _ => exact ⟨_, List.mem_singleton_self _⟩
  | interface _ => cases named
  | member _ => cases named

end TypePart

namespace Violation

/-- What is wrong with parts is found by a scan for the names of members. -/
lemma ofParts_eq_scan (known : String → Bool) (owner : String) (seen : List String)
    (parts : List TypePart) :
    ofParts known owner seen parts =
      scan (·.memberName?) (·.repeated owner) (·.violations known owner) seen parts := by
  induction parts generalizing seen with
  | nil => rfl
  | cons part parts ih =>
    cases part with
    | interface i => rw [ofParts, ih]; rfl
    | member m => rw [ofParts, ih]; rfl
    | field f => rw [ofParts, ih]; rfl
    | value v =>
      rw [ofParts, ih, scan]
      simp [TypePart.memberName?, TypePart.repeated, TypePart.violations]

/-- Something is wrong with a part itself, or a member has a name twice. -/
lemma mem_ofParts {known : String → Bool} {owner : String} {parts : List TypePart} {v : Violation} :
    v ∈ ofParts known owner [] parts ↔
      (∃ part ∈ parts, v ∈ part.violations known owner) ∨
      ∃ p q, [p, q].Sublist parts ∧ p.memberName?.isSome ∧ p.memberName? = q.memberName? ∧
        v ∈ q.repeated owner := by
  rw [ofParts_eq_scan, mem_scan_nil]

/-! ## Parts of a type of a document -/

section Document
variable {d : Document} {name : String}

/-- The parts of a type are those of all its bodies. -/
lemma partsOf_eq_flatMap (d : Document) (name : String) :
    partsOf d name = (d.bodiesOf name).flatMap (·.parts) := by
  rw [partsOf, Document.bodiesOf_eq_map, List.flatMap_map]

/-- The fields among the parts of a type are its fields. -/
lemma filterMap_field?_partsOf (d : Document) (name : String) :
    (partsOf d name).filterMap TypePart.field? = d.fieldsOf name := by
  rw [partsOf_eq_flatMap, Document.fieldsOf, List.filterMap_flatMap]
  refine List.flatMap_congr fun body _ => ?_
  cases body <;> simp [TypeBody.parts, TypeBody.fields, TypeBody.interfaces, TypeBody.members,
    TypeBody.values, List.filterMap_map, TypePart.field?, Function.comp_def]

/-- The values among the parts of a type are its values. -/
lemma filterMap_value?_partsOf (d : Document) (name : String) :
    (partsOf d name).filterMap TypePart.value? = d.valuesOf name := by
  rw [partsOf_eq_flatMap, Document.valuesOf, List.filterMap_flatMap]
  refine List.flatMap_congr fun body _ => ?_
  cases body <;> simp [TypeBody.parts, TypeBody.fields, TypeBody.interfaces, TypeBody.members,
    TypeBody.values, List.filterMap_map, TypePart.value?, Function.comp_def]

/-- A part of a type is one of a body of it. -/
lemma mem_partsOf {part : TypePart} :
    part ∈ partsOf d name ↔ ∃ i body, d.HasBody i body ∧ i.text = name ∧ part ∈ body.parts := by
  rw [partsOf_eq_flatMap, Document.mem_flatMap_bodiesOf]

end Document

end Violation

/-! ## Nodes of types -/

/-- The violation tells how a node clashes with an earlier one. -/
inductive TypeNode.Clash (m n : TypeNode) : Violation → Prop where
  | redefined :
    m.name.text = n.name.text → m.extends = false → n.extends = false →
    Clash m n (.redefinedType n.name m.name)
  | conflicting :
    m.name.text = n.name.text → m.body.kind ≠ n.body.kind →
    Clash m n (.conflictingKind n.name m.body.kind n.body.kind)

namespace Violation

/-- The definition of the type of a node among the earlier nodes, if the node is a definition
too. -/
def earlierDefinition? (earlier : List TypeNode) (n : TypeNode) : Option TypeNode :=
  if n.extends then none
  else (earlier.filter (·.name.text == n.name.text)).find? (!·.extends)

/-- An earlier definition that is found defines the type of the same name. -/
lemma earlierDefinition?_eq_some {earlier : List TypeNode} {n first : TypeNode}
    (found : earlierDefinition? earlier n = some first) :
    first ∈ earlier ∧ first.name.text = n.name.text ∧
      first.extends = false ∧ n.extends = false := by
  unfold earlierDefinition? at found
  split at found
  · cases found
  · rename_i base
    obtain ⟨mem, same⟩ := List.mem_filter.1 (List.mem_of_find?_eq_some found)
    have first_base := List.find?_some found
    exact ⟨mem, by simpa using same, by simpa using first_base, by simpa using base⟩

/-- Of the nodes of a type, those before a definition are extensions if none is an earlier
definition. -/
lemma earlierDefinition?_eq_none {earlier : List TypeNode} {n : TypeNode}
    (none_found : earlierDefinition? earlier n = none) (base : n.extends = false) :
    ∀ m ∈ earlier, m.name.text = n.name.text → m.extends = true := by
  intro m mem same
  rw [earlierDefinition?, base, if_neg Bool.false_ne_true] at none_found
  have extends_ := List.find?_eq_none.1 none_found m (List.mem_filter.2 ⟨mem, by simpa using same⟩)
  simpa using extends_

/-- What is wrong with a node, told by the earlier definition and the first of the earlier nodes. -/
lemma ofNode_eq (earlier : List TypeNode) (n : TypeNode) :
    ofNode earlier n =
      match earlierDefinition? earlier n,
        (earlier.filter (·.name.text == n.name.text)).head? with
      | some first, _ => [.redefinedType n.name first.name]
      | none, some first =>
        if first.body.kind = n.body.kind then []
        else [.conflictingKind n.name first.body.kind n.body.kind]
      | none, none => [] := rfl

/-- What is wrong with a node tells a clash with an earlier one. -/
lemma clash_of_mem_ofNode {earlier : List TypeNode} {n : TypeNode} {v : Violation}
    (mem : v ∈ ofNode earlier n) : ∃ m ∈ earlier, m.Clash n v := by
  rw [ofNode_eq] at mem
  split at mem
  · rename_i first found
    obtain ⟨memFirst, same, base, base'⟩ := earlierDefinition?_eq_some found
    rw [List.mem_singleton.1 mem]
    exact ⟨first, memFirst, .redefined same base base'⟩
  · rename_i first _ head
    obtain ⟨memFirst, same⟩ := List.mem_filter.1 (List.mem_of_mem_head? head)
    split at mem
    · cases mem
    · rename_i ne
      rw [List.mem_singleton.1 mem]
      exact ⟨first, memFirst, .conflicting (by simpa using same) ne⟩
  · cases mem

/-- What is wrong with some nodes tells a clash of one of them with one before it. -/
lemma clash_of_mem_ofNodes {earlier nodes : List TypeNode} {v : Violation}
    (mem : v ∈ ofNodes earlier nodes) :
    ∃ m n, [m, n].Sublist (earlier ++ nodes) ∧ m.Clash n v := by
  induction nodes generalizing earlier with
  | nil => cases mem
  | cons n nodes ih =>
    rcases List.mem_append.1 mem with here | later
    · obtain ⟨m, mem, clash⟩ := clash_of_mem_ofNode here
      have before : [m, n].Sublist (earlier ++ [n]) :=
        (List.singleton_sublist.2 mem).append (List.Sublist.refl [n])
      rw [List.append_cons]
      exact ⟨m, n, before.trans (List.sublist_append_left _ nodes), clash⟩
    · rw [List.append_cons]
      exact ih later

/-- If nothing is wrong with a node, it clashes with none of the earlier ones, of which no two
clash. Comparing it with the first node of its name is enough, since all of them are of one kind. -/
lemma not_clash_of_ofNode_eq_nil {earlier : List TypeNode} {n : TypeNode}
    (apart : earlier.Pairwise fun m n => ∀ v, ¬m.Clash n v) (none_found : ofNode earlier n = []) :
    ∀ m ∈ earlier, ∀ v, ¬m.Clash n v := by
  intro m mem v clash
  rw [ofNode_eq] at none_found
  cases undefined : earlierDefinition? earlier n with
  | some first => simp [undefined] at none_found
  | none =>
    rw [undefined] at none_found
    cases clash with
    | redefined same base base' =>
      exact absurd base (by simp [earlierDefinition?_eq_none undefined base' m mem same])
    | conflicting same ne =>
      have listed : m ∈ earlier.filter (·.name.text == n.name.text) :=
        List.mem_filter.2 ⟨mem, by simpa using same⟩
      cases nodes : earlier.filter (·.name.text == n.name.text) with
      | nil => simp [nodes] at listed
      | cons first rest =>
        have kind : first.body.kind = n.body.kind := by simpa [nodes] using none_found
        rw [nodes, List.mem_cons] at listed
        rcases listed with rfl | later
        · exact ne kind
        · -- `first` and `m` are earlier nodes of different kinds, so they clash themselves
          have before : [first, m].Sublist earlier := by
            have sub : [first, m].Sublist (first :: rest) := pair_sublist_cons.2 (.inl ⟨rfl, later⟩)
            exact (nodes ▸ sub).trans List.filter_sublist
          have first_same : first.name.text = n.name.text := by
            have listed : first ∈ earlier.filter (·.name.text == n.name.text) := by simp [nodes]
            simpa using (List.mem_filter.1 listed).2
          have ne' : first.body.kind ≠ m.body.kind := fun eq => ne (eq.symm.trans kind)
          exact List.pairwise_iff_forall_sublist.1 apart before _
            (.conflicting (first_same.trans same.symm) ne')

/-- Nodes of which no violation is found do not clash, by induction on them. -/
lemma pairwise_not_clash {earlier nodes : List TypeNode}
    (apart : earlier.Pairwise fun m n => ∀ v, ¬m.Clash n v)
    (none_found : ofNodes earlier nodes = []) :
    (earlier ++ nodes).Pairwise fun m n => ∀ v, ¬m.Clash n v := by
  induction nodes generalizing earlier with
  | nil => simpa using apart
  | cons n nodes ih =>
    obtain ⟨here, later⟩ := List.append_eq_nil_iff.1 none_found
    rw [List.append_cons]
    refine ih ?_ later
    rw [List.pairwise_append]
    refine ⟨apart, List.pairwise_singleton _ _, ?_⟩
    intro m mem n' mem'
    rw [List.mem_singleton.1 mem']
    exact not_clash_of_ofNode_eq_nil apart here m mem

/-- If nothing is wrong with the nodes of a document, none clashes with an earlier one. -/
lemma not_clash_of_ofNodes_eq_nil {d : Document} (none_found : ofNodes [] d.typeNodes = [])
    {m n : TypeNode} {v : Violation} (before : [m, n].Sublist d.typeNodes) : ¬m.Clash n v :=
  List.pairwise_iff_forall_sublist.1 (pairwise_not_clash .nil none_found) before v

/-- Where no violation is found among the nodes, each type is defined once. -/
lemma definedOnce_of_ofNodes_eq_nil {d : Document} (none_found : ofNodes [] d.typeNodes = []) :
    d.definedNames.Nodup := by
  refine List.pairwise_iff_forall_sublist.2 ?_
  rintro a b sub rfl
  obtain ⟨x, y, sub, eq, eq'⟩ := pair_sublist_filterMap.1 sub
  obtain ⟨i, b, rfl, rfl⟩ := Document.definedName?_eq_some_iff.1 eq
  obtain ⟨j, c, rfl, same⟩ := Document.definedName?_eq_some_iff.1 eq'
  have nodes : [⟨false, i, b⟩, ⟨false, j, c⟩].Sublist d.typeNodes :=
    Document.pair_sublist_typeNodes.2 sub
  exact not_clash_of_ofNodes_eq_nil none_found nodes (.redefined same.symm rfl rfl)

/-- Where no violation is found among the nodes, all nodes of a type are of one kind. -/
lemma oneKind_of_ofNodes_eq_nil {d : Document} (none_found : ofNodes [] d.typeNodes = [])
    {i j : Ident} {b c : TypeBody} (has : d.HasBody i b) (has' : d.HasBody j c)
    (same : i.text = j.text) : b.kind = c.kind := by
  obtain ⟨m, mem, rfl, rfl⟩ := Document.hasBody_iff.1 has
  obtain ⟨n, mem', rfl, rfl⟩ := Document.hasBody_iff.1 has'
  by_contra ne
  have different : m ≠ n := fun eq => ne (by rw [eq])
  rcases pair_sublist_or mem mem' different with before | after
  · exact not_clash_of_ofNodes_eq_nil none_found before (.conflicting same ne)
  · exact not_clash_of_ofNodes_eq_nil none_found after (.conflicting same.symm (Ne.symm ne))

end Violation

end SchemaLint

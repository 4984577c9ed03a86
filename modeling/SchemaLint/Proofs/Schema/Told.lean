import Mathlib
import SchemaLint.Proofs.Schema.Stages

/-!
# The order of telling

The list of all violations of a document, with the stage of each. If the document is located, each
one precedes all behind it: `Violation.pairwise_told`.
-/

namespace SchemaLint

open Sdl (ArgumentNode Document FieldNode Ident Position TypeBody)

namespace Violation

/-! ## Scans -/

section Scan
variable {α γ δ : Type} {key : α → Option String} {twice other : α → List γ}

/-- What is made of the findings of a scan is a scan for what is made of them. -/
lemma map_scan (f : γ → δ) (seen : List String) (xs : List α) :
    (scan key twice other seen xs).map f =
      scan key (fun x => (twice x).map f) (fun x => (other x).map f) seen xs := by
  induction xs generalizing seen with
  | nil => rfl
  | cons x xs ih =>
    rw [scan, scan, List.map_append, List.map_append, ih]
    congr 2
    split <;> rfl

/-- A scan gives no more than is said of the elements, in their order. -/
lemma scan_sublist (seen : List String) (xs : List α) :
    (scan key twice other seen xs).Sublist (xs.flatMap fun x => twice x ++ other x) := by
  induction xs generalizing seen with
  | nil => exact .slnil
  | cons x xs ih =>
    rw [scan, List.flatMap_cons]
    refine List.Sublist.append ?_ (ih _)
    split
    · exact List.Sublist.refl _
    · exact (List.nil_sublist _).append (List.Sublist.refl _)

end Scan

end Violation

/-! ## Places of parts -/

namespace TypePart

/-- Where a part stands. -/
def position : TypePart → Position
  | interface i => i.position
  | field f => f.name.position
  | member m => m.position
  | value v => v.position

/-- Where a part stands, and what it holds. -/
def places : TypePart → List Position
  | interface i => [i.position]
  | field f => f.places
  | member m => [m.position]
  | value v => [v.position]

/-- A part stands at one of its places. -/
lemma position_mem_places (p : TypePart) : p.position ∈ p.places := by
  cases p <;> exact List.mem_cons_self

/-- The reference to a type that a part makes itself, if it is wrong. -/
def ownViolations (known : String → Bool) (owner : String) : TypePart → List Violation
  | interface i => Violation.ofReference known i.text owner i.position
  | member m => Violation.ofReference known m.text owner m.position
  | field f =>
    Violation.ofReference known f.type.core.1.text s!"{owner}.{f.name.text}" f.type.position
  | value _ => []

/-- What is wrong with the arguments of a part. -/
def argumentViolations (known : String → Bool) (owner : String) : TypePart → List Violation
  | field f => Violation.ofArguments known owner f.name.text [] f.arguments
  | interface _ | member _ | value _ => []

/-- A part that is taken for a field is one. -/
lemma field?_eq_some_iff {p : TypePart} {f : FieldNode} : p.field? = some f ↔ p = .field f := by
  cases p <;> simp [field?]

/-- A part that is taken for a value is one. -/
lemma value?_eq_some_iff {p : TypePart} {v : Ident} : p.value? = some v ↔ p = .value v := by
  cases p <;> simp [value?]

/-- What is wrong with a part is wrong with its own type or with its arguments. -/
lemma violations_eq_append (known : String → Bool) (owner : String) (p : TypePart) :
    p.violations known owner = p.ownViolations known owner ++ p.argumentViolations known owner := by
  cases p with
  | field f => rfl
  | interface _ => exact (List.append_nil _).symm
  | member _ => exact (List.append_nil _).symm
  | value _ => rfl

end TypePart

/-- The places of a body are those of its parts, one after the other. -/
lemma Sdl.TypeBody.flatMap_places_parts (body : TypeBody) :
    body.parts.flatMap (·.places) = body.places := by
  cases body <;> simp [parts, interfaces, fields, members, values, places, TypePart.places,
    List.flatMap_map, ← List.map_eq_flatMap]

/-! ## Places of violations -/

namespace Violation

variable {known : String → Bool}

/-- A wrong reference is told where it stands. -/
lemma positions_ofReference (name referencedFrom : String) (position : Position) :
    ((ofReference known name referencedFrom position).map (·.position)).Sublist [position] := by
  unfold ofReference
  split
  · exact List.nil_sublist _
  · exact List.Sublist.refl _

/-- A wrong type node is told where its name stands. -/
lemma positions_ofNode (earlier : List TypeNode) (n : TypeNode) :
    ((ofNode earlier n).map (·.position)).Sublist [n.name.position] := by
  rw [ofNode_eq]
  split
  · exact List.Sublist.refl _
  · split
    · exact List.nil_sublist _
    · exact List.Sublist.refl _
  · exact List.nil_sublist _

/-- Wrong type nodes are told in the order of their names. -/
lemma positions_ofNodes (earlier nodes : List TypeNode) :
    ((ofNodes earlier nodes).map (·.position)).Sublist (nodes.map (·.name.position)) := by
  induction nodes generalizing earlier with
  | nil => exact .slnil
  | cons n nodes ih =>
    rw [ofNodes, List.map_append]
    exact (positions_ofNode earlier n).append (ih _)

/-- What is wrong with arguments is told in the order of their places. -/
lemma positions_ofArguments (owner field : String) (seen : List String) (as : List ArgumentNode) :
    ((ofArguments known owner field seen as).map (·.position)).Sublist
      (as.flatMap (·.places)) := by
  induction as generalizing seen with
  | nil => exact .slnil
  | cons a as ih =>
    have name : ((if seen.contains a.name.text then
        [redefinedMember .argument s!"{owner}.{field}" a.name] else []).map (·.position)).Sublist
          [a.name.position] := by
      split
      · exact List.Sublist.refl _
      · exact List.nil_sublist _
    rw [ofArguments, List.map_append, List.map_append, List.flatMap_cons]
    exact (name.append (positions_ofReference _ _ _)).append (ih _)

/-- What is wrong with a part itself is told at its places. -/
lemma positions_own (owner : String) (p : TypePart) :
    ((p.repeated owner ++ p.ownViolations known owner).map (·.position)).Sublist p.places := by
  rw [List.map_append]
  cases p with
  | interface i => exact positions_ofReference _ _ _
  | member m => exact positions_ofReference _ _ _
  | value v => exact List.Sublist.refl _
  | field f =>
    exact ((positions_ofReference _ _ _).trans (List.sublist_append_right _ _)).cons_cons _

/-- What is wrong with the arguments of a part is told at its places. -/
lemma positions_arguments (owner : String) (p : TypePart) :
    ((p.argumentViolations known owner).map (·.position)).Sublist p.places := by
  cases p with
  | interface i => exact List.nil_sublist _
  | member m => exact List.nil_sublist _
  | value v => exact List.nil_sublist _
  | field f =>
    refine List.Sublist.cons _ ?_
    exact (positions_ofArguments owner f.name.text [] f.arguments).trans
      (List.sublist_append_left _ _)

/-- Violations of one thing after the other are told in the order of the places of all. -/
lemma positions_flatMap {α : Type} {f : α → List Violation} {places : α → List Position}
    (sub : ∀ x, ((f x).map (·.position)).Sublist (places x)) (xs : List α) :
    ((xs.flatMap f).map (·.position)).Sublist (xs.flatMap places) := by
  rw [List.map_flatMap]
  exact List.Sublist.flatMap_right xs fun x _ => sub x

end Violation

/-! ## Located documents -/

/-- What comes of the things of a list that count comes in the order of all of them. -/
lemma flatMap_filterMap_sublist {α β γ : Type} {f : α → Option β} {g : β → List γ}
    {h : α → List γ} (sub : ∀ {x y}, f x = some y → (g y).Sublist (h x)) (xs : List α) :
    ((xs.filterMap f).flatMap g).Sublist (xs.flatMap h) := by
  induction xs with
  | nil => exact .slnil
  | cons x xs ih =>
    rw [List.flatMap_cons]
    cases eq : f x with
    | none =>
      rw [List.filterMap_cons_none eq]
      exact ih.trans (List.sublist_append_right _ _)
    | some y =>
      rw [List.filterMap_cons_some eq, List.flatMap_cons]
      exact (sub eq).append ih

namespace Sdl.Document

variable {d : Document}

/-- The places of the type nodes are some of those of the document, in their order. -/
lemma places_typeNodes (d : Document) :
    (d.typeNodes.flatMap fun n => n.name.position :: n.body.places).Sublist d.places := by
  rw [typeNodes_eq_filterMap]
  refine flatMap_filterMap_sublist (fun eq => ?_) d.definitions
  rw [typeNode?_eq_some_iff.1 eq]
  exact List.Sublist.refl _

/-- The places of the parts of a type are some of those of the document, in their order. -/
lemma places_partsOf (d : Document) (name : String) :
    ((Violation.partsOf d name).flatMap (·.places)).Sublist d.places := by
  rw [Violation.partsOf, List.flatMap_assoc]
  simp only [TypeBody.flatMap_places_parts]
  calc ((d.nodesOf name).flatMap (·.body.places)).Sublist
        (d.typeNodes.flatMap (·.body.places)) := List.filter_sublist.flatMap _
    List.Sublist _ (d.typeNodes.flatMap fun n => n.name.position :: n.body.places) :=
      List.Sublist.flatMap_right _ fun n _ => List.sublist_cons_self _ _
    List.Sublist _ d.places := d.places_typeNodes

/-- The places of the arguments of directives are some of those of the document, in their order. -/
lemma places_directives (d : Document) :
    (d.directives.flatMap fun directive => directive.2.map (·.name.position)).Sublist d.places := by
  refine flatMap_filterMap_sublist (fun {x y} eq => ?_) d.definitions
  split at eq
  · cases eq
    refine List.Sublist.cons _ ?_
    rw [List.map_eq_flatMap]
    exact List.Sublist.flatMap_right _ fun a _ => (List.nil_sublist _).cons_cons _
  · cases eq

/-- The places of roots are some of those of the document, in their order. -/
lemma places_schemaNodes (d : Document) :
    (d.schemaNodes.flatMap fun roots => roots.map (·.type.position)).Sublist d.places := by
  refine flatMap_filterMap_sublist (fun {x y} eq => ?_) d.definitions
  split at eq
  · cases eq
    exact List.Sublist.refl _
  · cases eq

section Located
variable (located : d.Located)
include located

/-- The type nodes of a located document stand one behind the other. -/
lemma Located.pairwise_typeNodes :
    (d.typeNodes.map (·.name.position)).Pairwise Position.Before := by
  refine located.sublist (List.Sublist.trans ?_ d.places_typeNodes)
  rw [List.map_eq_flatMap]
  exact List.Sublist.flatMap_right _ fun n _ => (List.nil_sublist _).cons_cons _

/-- The names of types are in the order of the places where the document names them first. -/
lemma Located.pairwise_typeNames :
    d.typeNames.Pairwise fun a b => (d.firstPlace a).Before (d.firstPlace b) := by
  have order := pairwise_findIdx_eraseDups_filterMap (some ·.name.text) d.typeNodes
  rw [List.filterMap_eq_map'] at order
  refine order.imp_of_mem fun {a b} memA memB lt => ?_
  have first : ∀ {name}, name ∈ d.typeNames →
      ∃ n, d.typeNodes[d.typeNodes.findIdx (some ·.name.text == some name)]? = some n ∧
        d.firstPlace name = n.name.position := by
    intro name mem
    obtain ⟨n, memN, same⟩ := List.mem_map.1 (List.mem_eraseDups.1 mem)
    have found : (d.nodesOf name).head? =
        d.typeNodes[d.typeNodes.findIdx (some ·.name.text == some name)]? := by
      rw [nodesOf, List.head?_filter, List.find?_eq_getElem?_findIdx]
      rfl
    rw [firstPlace, ← found]
    cases nodes : d.nodesOf name with
    | nil =>
      have listed : n ∈ d.nodesOf name := List.mem_filter.2 ⟨memN, by simpa using same⟩
      exact absurd listed (nodes ▸ List.not_mem_nil)
    | cons first rest => exact ⟨first, rfl, rfl⟩
  obtain ⟨m, atA, eqA⟩ := first memA
  obtain ⟨n, atB, eqB⟩ := first memB
  obtain ⟨ltA, rfl⟩ := List.getElem?_eq_some_iff.1 atA
  obtain ⟨ltB, rfl⟩ := List.getElem?_eq_some_iff.1 atB
  rw [eqA, eqB]
  exact List.pairwise_iff_getElem.1 (List.pairwise_map.1 located.pairwise_typeNodes) _ _ ltA ltB lt

end Located

end Sdl.Document

/-! ## The order of telling -/

namespace Violation

/-- What is wrong with the parts of a type, with the stages. -/
def toldParts (known : String → Bool) (owner : String) (first : Position) (parts : List TypePart) :
    List (Stage × Violation) :=
  scan TypePart.memberName?
    (fun p => (p.repeated owner).map (Prod.mk (.part first p.position false)))
    (fun p => (p.ownViolations known owner).map (Prod.mk (.part first p.position false)) ++
      (p.argumentViolations known owner).map (Prod.mk (.part first p.position true))) [] parts

/-- The violations that are found in one pass over a document, with the stages. -/
def toldIn (d : Document) : Nat → List (Stage × Violation)
  | 0 => (ofNodes [] d.typeNodes).map (Prod.mk .nodes)
  | 1 =>
    d.typeNames.flatMap fun name =>
      toldParts (isKnown d.typeNames) name (d.firstPlace name) (partsOf d name)
  | 2 => (d.directives.flatMap (ofDirective (isKnown d.typeNames))).map (Prod.mk .directives)
  | 3 => (d.schemaNodes.flatMap (ofRoots (isKnown d.typeNames))).map (Prod.mk .roots)
  | _ => []

/-- All violations of a document, with the stages. -/
def told (d : Document) : List (Stage × Violation) := (List.range 4).flatMap (toldIn d)

/-- Violations that are put into a stage are these violations. -/
lemma map_snd_mk (stage : Stage) (vs : List Violation) :
    (vs.map (Prod.mk stage)).map Prod.snd = vs := by
  rw [List.map_map]
  exact List.map_id vs

/-- What is told of the parts of a type is what is wrong with them. -/
lemma map_snd_toldParts (known : String → Bool) (owner : String) (first : Position)
    (parts : List TypePart) :
    (toldParts known owner first parts).map Prod.snd = ofParts known owner [] parts := by
  rw [toldParts, map_scan, ofParts_eq_scan]
  congr 1
  · funext p
    exact map_snd_mk _ _
  · funext p
    rw [List.map_append, map_snd_mk, map_snd_mk, p.violations_eq_append]

/-- The stages add nothing to the violations. -/
lemma map_snd_told (d : Document) : (told d).map Prod.snd = all d := by
  have passes : told d = toldIn d 0 ++ (toldIn d 1 ++ (toldIn d 2 ++ (toldIn d 3 ++ []))) := rfl
  simp only [passes, toldIn, all, List.map_append, List.map_flatMap, map_snd_mk,
    map_snd_toldParts, List.append_nil, List.append_assoc]

variable {d : Document}

/-- Violations of one stage that stand one behind the other are told in this order. -/
lemma pairwise_mk {stage : Stage} {vs : List Violation} {places : List Position}
    (sub : (vs.map (·.position)).Sublist places) (ascending : places.Pairwise Position.Before) :
    (vs.map (Prod.mk stage)).Pairwise Precedes := by
  rw [List.pairwise_map]
  exact (List.pairwise_map.1 (ascending.sublist sub)).imp fun before => .inr ⟨rfl, before⟩

/-- A violation is told in a stage if it is one of those put into it. -/
lemma mem_map_mk {stage s : Stage} {vs : List Violation} {v : Violation} :
    (s, v) ∈ vs.map (Prod.mk stage) ↔ s = stage ∧ v ∈ vs := by
  rw [List.mem_map]
  constructor
  · rintro ⟨v, mem, eq⟩
    cases eq
    exact ⟨rfl, mem⟩
  · rintro ⟨rfl, mem⟩
    exact ⟨v, mem, rfl⟩

/-- What is put into a stage is in it. -/
lemma fst_of_mem_map_mk {stage : Stage} {vs : List Violation} {x : Stage × Violation}
    (mem : x ∈ vs.map (Prod.mk stage)) : x.1 = stage := (mem_map_mk.1 mem).1

section Parts
variable {known : String → Bool} {owner : String} {first : Position} {parts : List TypePart}
  {x : Stage × Violation}

/-- What is wrong with a part, with the stages. -/
def toldPart (known : String → Bool) (owner : String) (first : Position) (p : TypePart) :
    List (Stage × Violation) :=
  (p.repeated owner).map (Prod.mk (.part first p.position false)) ++
    ((p.ownViolations known owner).map (Prod.mk (.part first p.position false)) ++
      (p.argumentViolations known owner).map (Prod.mk (.part first p.position true)))

/-- What is told of a part is told in the stage of this part. -/
lemma stage_of_mem_toldPart {p : TypePart} (mem : x ∈ toldPart known owner first p) :
    ∃ arguments, x.1 = .part first p.position arguments := by
  rcases List.mem_append.1 mem with twice | other
  · exact ⟨false, fst_of_mem_map_mk twice⟩
  · rcases List.mem_append.1 other with own | arguments
    · exact ⟨false, fst_of_mem_map_mk own⟩
    · exact ⟨true, fst_of_mem_map_mk arguments⟩

/-- What is told of the parts of a type is told in the stage of one of them. -/
lemma stage_of_mem_toldParts (mem : x ∈ toldParts known owner first parts) :
    ∃ p arguments, x.1 = .part first p arguments := by
  obtain ⟨p, -, mem⟩ := List.mem_flatMap.1 ((scan_sublist _ _).subset mem)
  exact ⟨p.position, stage_of_mem_toldPart mem⟩

/-- What is wrong with a part is told in the order of the stages. -/
lemma pairwise_toldPart {p : TypePart} (ascending : p.places.Pairwise Position.Before) :
    (toldPart known owner first p).Pairwise Precedes := by
  rw [toldPart, ← List.append_assoc, ← List.map_append, List.pairwise_append]
  refine ⟨pairwise_mk (positions_own owner p) ascending,
    pairwise_mk (positions_arguments owner p) ascending, ?_⟩
  intro x memX y memY
  rw [Precedes, fst_of_mem_map_mk memX, fst_of_mem_map_mk memY]
  exact .inl .arguments

/-- What is wrong with the parts of a type is told in the order of the stages, by induction on the
parts. -/
lemma pairwise_toldParts (ascending : (parts.flatMap (·.places)).Pairwise Position.Before) :
    (toldParts known owner first parts).Pairwise Precedes := by
  obtain ⟨within, between⟩ := List.pairwise_flatMap.1 ascending
  refine List.Pairwise.sublist (scan_sublist _ _) (List.pairwise_flatMap.2
    ⟨fun p mem => pairwise_toldPart (within p mem), between.imp fun {p q} before => ?_⟩)
  intro x memX y memY
  obtain ⟨a, stageX⟩ := stage_of_mem_toldPart memX
  obtain ⟨b, stageY⟩ := stage_of_mem_toldPart memY
  rw [Precedes, stageX, stageY]
  exact .inl (.part (before _ p.position_mem_places _ q.position_mem_places))

end Parts

/-- What is told in a pass is in a stage of this pass. -/
lemma pass_of_mem_toldIn {n : Nat} {x : Stage × Violation} (mem : x ∈ toldIn d n) :
    x.1.pass = n := by
  match n with
  | 0 => rw [fst_of_mem_map_mk mem, Stage.pass]
  | 1 =>
    obtain ⟨name, -, mem⟩ := List.mem_flatMap.1 mem
    obtain ⟨p, a, stage⟩ := stage_of_mem_toldParts mem
    rw [stage, Stage.pass]
  | 2 => rw [fst_of_mem_map_mk mem, Stage.pass]
  | 3 => rw [fst_of_mem_map_mk mem, Stage.pass]
  | _ + 4 => cases mem

/-- What is told in one pass over a located document is told in the order of the stages. -/
lemma pairwise_toldIn (located : d.Located) (n : Nat) : (toldIn d n).Pairwise Precedes := by
  match n with
  | 0 => exact pairwise_mk (positions_ofNodes [] d.typeNodes) located.pairwise_typeNodes
  | 1 =>
    refine List.pairwise_flatMap.2 ⟨fun name _ => ?_, ?_⟩
    · exact pairwise_toldParts (located.sublist (d.places_partsOf name))
    · refine located.pairwise_typeNames.imp fun before x memX y memY => ?_
      obtain ⟨p, a, stageX⟩ := stage_of_mem_toldParts memX
      obtain ⟨q, b, stageY⟩ := stage_of_mem_toldParts memY
      rw [Precedes, stageX, stageY]
      exact .inl (.type before)
  | 2 =>
    refine pairwise_mk (positions_flatMap (fun directive => ?_) _)
      (located.sublist d.places_directives)
    rw [List.map_eq_flatMap (l := directive.2)]
    exact positions_flatMap (fun a => positions_ofReference _ _ _) _
  | 3 =>
    refine pairwise_mk (positions_flatMap (fun roots => ?_) _)
      (located.sublist d.places_schemaNodes)
    rw [List.map_eq_flatMap (l := roots)]
    exact positions_flatMap (fun r => positions_ofReference _ _ _) _
  | _ + 4 => exact .nil

/-- Violations are told in order. -/
lemma pairwise_told (located : d.Located) : (told d).Pairwise Precedes := by
  refine List.pairwise_flatMap.2 ⟨fun n _ => pairwise_toldIn located n, ?_⟩
  refine List.pairwise_lt_range.imp fun lt x memX y memY => .inl (.pass ?_)
  rwa [pass_of_mem_toldIn memX, pass_of_mem_toldIn memY]

end Violation

end SchemaLint

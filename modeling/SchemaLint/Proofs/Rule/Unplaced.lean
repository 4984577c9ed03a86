import Mathlib
import SchemaLint.Catalog.Basic
import SchemaLint.Proofs.Schema.Unplaced

/-!
# Rules and positions

A rule of the convention copies the position of what it looks at and does not look at it: about an
entity without positions, in a table without positions, it finds what it finds about the entity,
without positions. There is one lemma for each rule; together they are
`Rule.overlooksPlaces_of_mem_standardRules`.
-/

namespace SchemaLint

/-! ## Findings -/

/-- The location without its position. -/
def Location.unplaced (l : Location) : Location := { l with line := 0, column := 0 }

/-- The finding without its position. -/
def Finding.unplaced (f : Finding) : Finding := { f with location := f.location.unplaced }

/-- The place of an entity loses its position with the entity. -/
lemma Location.ofEntity_unplaced (e : Entity) : ofEntity e.unplaced = (ofEntity e).unplaced := by
  cases e <;> rfl

namespace Findings

/-- The findings without their positions. -/
def unplaced (findings : Findings) : Findings := findings.map (·.map (·.unplaced))

/-- Where nothing is found, there are no positions. -/
lemma nothing_eq_unplaced : .nothing = unplaced .nothing := rfl

/-- A finding about an entity loses its position with the entity. -/
lemma one_eq_unplaced (e : Entity) (message : String) (fix : Option String) :
    .one e.unplaced message fix = unplaced (.one e message fix) := by
  rw [one, Location.ofEntity_unplaced]
  rfl

/-- A choice between findings loses the positions of both. -/
lemma ite_eq_unplaced {p : Prop} [Decidable p] {fs fs' gs gs' : Findings}
    (same : fs' = fs.unplaced) (same' : gs' = gs.unplaced) :
    (if p then fs' else gs') = unplaced (if p then fs else gs) := by
  rw [same, same', apply_ite unplaced]

/-- What depends on a first or last thing is looked at for any such thing. -/
lemma bind_eq_unplaced {α : Type} {first? : Option α} {fs fs' : α → Findings}
    (same : ∀ x, fs' x = (fs x).unplaced) : (first? >>= fs') = unplaced (first? >>= fs) := by
  cases first? with
  | none => rfl
  | some x => exact same x

end Findings

/-! ## Judgements -/

/-- The judgement does not depend on positions. -/
structure Judgement.OverlooksPlaces (j : Judgement) : Prop where
  isEntity : ∀ table t, j.isEntity table.unplaced t.unplaced = j.isEntity table t
  repeats : ∀ table f, j.repeats table.unplaced f.unplaced = j.repeats table f

/-- The judgement by names does not depend on positions. -/
lemma Judgement.overlooksPlaces_ofNames (allowed : List String) :
    (ofNames allowed).OverlooksPlaces where
  isEntity table t := by
    have leaves : t.unplaced.fields.any (fun f => f.name ≠ "id" && table.unplaced.isLeaf f.type.name) =
        t.fields.any fun f => f.name ≠ "id" && table.isLeaf f.type.name := by
      simp only [TypeDef.fields_unplaced, List.any_map, Function.comp_def, Field.name_unplaced,
        Field.type_unplaced, Table.isLeaf_unplaced]
      rfl
    simp only [ofNames, entityByShape, leaves]
    rfl
  repeats _ _ := rfl

/-! ## Rules -/

/-- The context with a table without positions. -/
def Context.unplaced (c : Context) : Context := { c with table := c.table.unplaced }

namespace Rule

/-- Without positions, the rule applies to the same entities and finds the same about each, without
positions. -/
structure OverlooksPlaces (rule : Rule) : Prop where
  appliesTo : ∀ c e, rule.appliesTo c.unplaced e.unplaced = rule.appliesTo c e
  check? : ∀ c e, c.judgement.OverlooksPlaces →
    rule.check? c.unplaced e.unplaced = (rule.check? c e).unplaced

section
variable {id description : String} {severity : Severity} {heuristic : Bool}

/-- A rule for types overlooks positions if its check does. -/
lemma overlooksPlaces_onTypes {kinds : TypeKind → Bool} {check : Context → TypeDef → Findings}
    (same : ∀ c t, c.judgement.OverlooksPlaces →
      check c.unplaced t.unplaced = (check c t).unplaced) :
    (onTypes id description severity heuristic kinds check).OverlooksPlaces where
  appliesTo _ e := by cases e <;> rfl
  check? c e overlooks :=
    match e with
    | .type t => same c t overlooks
    | .field _ => rfl
    | .argument _ => rfl

/-- A rule for fields overlooks positions if its test and its check do. -/
lemma overlooksPlaces_onFields {applies : Context → Field → Bool}
    {check : Context → Field → Findings}
    (applies_same : ∀ c f, applies c.unplaced f.unplaced = applies c f)
    (same : ∀ c f, c.judgement.OverlooksPlaces →
      check c.unplaced f.unplaced = (check c f).unplaced) :
    (onFields id description severity heuristic applies check).OverlooksPlaces where
  appliesTo c e :=
    match e with
    | .type _ => rfl
    | .field f => applies_same c f
    | .argument _ => rfl
  check? c e overlooks :=
    match e with
    | .type _ => rfl
    | .field f => same c f overlooks
    | .argument _ => rfl

/-- So does a rule for the fields of a root. -/
lemma overlooksPlaces_onRootFields {operation : Sdl.Operation} {applies : Field → Bool}
    {check : Context → Field → Findings} (applies_same : ∀ f : Field, applies f.unplaced = applies f)
    (same : ∀ c f, check c.unplaced f.unplaced = (check c f).unplaced) :
    (onRootFields id description operation applies check).OverlooksPlaces := by
  refine overlooksPlaces_onFields (fun c f => ?_) fun c f _ => same c f
  rw [applies_same]
  rfl

end

open Findings

/-! ### Names of types -/

/-- The rule on the case of types overlooks positions. -/
lemma overlooksPlaces_typeCasing : typeCasing.OverlooksPlaces :=
  overlooksPlaces_onTypes fun _ t _ =>
    ite_eq_unplaced nothing_eq_unplaced (one_eq_unplaced (.type t) _ _)

/-- The rule on singular types overlooks positions. -/
lemma overlooksPlaces_typeSingular : typeSingular.OverlooksPlaces := by
  refine overlooksPlaces_onTypes fun c t _ => ?_
  dsimp only [TypeDef.name_unplaced]
  split
  · exact nothing_eq_unplaced
  · exact ite_eq_unplaced (one_eq_unplaced (.type t) _ _) nothing_eq_unplaced

/-- The rule on suffixes for kinds overlooks positions. -/
lemma overlooksPlaces_typeKindSuffix : typeKindSuffix.OverlooksPlaces := by
  refine overlooksPlaces_onTypes fun _ t _ => ?_
  dsimp only
  rw [t.name_unplaced]
  split
  · exact nothing_eq_unplaced
  · exact one_eq_unplaced (.type t) _ _

/-- The rule on the suffix of input types overlooks positions. -/
lemma overlooksPlaces_inputSuffix : inputSuffix.OverlooksPlaces :=
  overlooksPlaces_onTypes fun _ t _ =>
    ite_eq_unplaced nothing_eq_unplaced
      (bind_eq_unplaced fun _ => one_eq_unplaced (.type t) _ _)

/-- The rule on filters overlooks positions, and finds the same usages. -/
lemma overlooksPlaces_filterSuffix : filterSuffix.OverlooksPlaces := by
  refine overlooksPlaces_onTypes fun c t _ => ?_
  have usages : (c.unplaced.table.usagesOf t.unplaced.name).filter (·.name == "filter") =
      ((c.table.usagesOf t.name).filter (·.name == "filter")).map (·.unplaced) := by
    rw [Context.unplaced, Table.usagesOf_unplaced, List.filter_map]
    rfl
  dsimp only
  rw [usages, List.isEmpty_map, List.head?_map, Option.bind_eq_bind, Option.bind_map]
  exact ite_eq_unplaced nothing_eq_unplaced (ite_eq_unplaced nothing_eq_unplaced
    (bind_eq_unplaced fun _ => one_eq_unplaced (.type t) _ _))

/-! ### Names of fields -/

/-- The rule on the case of fields overlooks positions, for arguments too. -/
lemma overlooksPlaces_fieldCasing : fieldCasing.OverlooksPlaces where
  appliesTo _ e := by
    dsimp only [fieldCasing]
    rw [e.name_unplaced]
  check? _ e _ := by
    dsimp only [fieldCasing]
    rw [e.name_unplaced, e.kind_unplaced]
    exact ite_eq_unplaced nothing_eq_unplaced (one_eq_unplaced e _ _)

/-- The rule on the plurality of fields overlooks positions. -/
lemma overlooksPlaces_fieldPlurality : fieldPlurality.OverlooksPlaces :=
  overlooksPlaces_onFields (fun _ _ => rfl) fun _ f _ =>
    ite_eq_unplaced
      (ite_eq_unplaced
        (bind_eq_unplaced fun _ => one_eq_unplaced (.field f) _ _)
        nothing_eq_unplaced)
      (ite_eq_unplaced (one_eq_unplaced (.field f) _ _) nothing_eq_unplaced)

/-- The rule on redundant names overlooks positions if the judgement does. -/
lemma overlooksPlaces_fieldRedundantName : fieldRedundantName.OverlooksPlaces := by
  refine overlooksPlaces_onFields (fun _ _ => rfl) fun c f overlooks => ?_
  have repeats : c.unplaced.judgement.repeats c.unplaced.table f.unplaced =
      c.judgement.repeats c.table f := overlooks.repeats c.table f
  rw [repeats]
  refine ite_eq_unplaced nothing_eq_unplaced ?_
  cases c.judgement.repeats c.table f with
  | none => exact nothing_eq_unplaced
  | some part => exact one_eq_unplaced (.field f) _ _

/-- The rule on truth values overlooks positions. -/
lemma overlooksPlaces_booleanFieldPrefix : booleanFieldPrefix.OverlooksPlaces := by
  refine overlooksPlaces_onFields (fun _ _ => rfl) fun c f _ => ?_
  dsimp only [Context.unplaced, Field.name_unplaced]
  split
  · exact one_eq_unplaced (.field f) _ _
  · exact one_eq_unplaced (.field f) _ _
  · exact nothing_eq_unplaced

/-! ### Mutations -/

/-- The rule on the names of mutations overlooks positions. -/
lemma overlooksPlaces_mutationNaming : mutationNaming.OverlooksPlaces :=
  overlooksPlaces_onRootFields (fun _ => rfl) fun _ f =>
    ite_eq_unplaced nothing_eq_unplaced (one_eq_unplaced (.field f) _ _)

/-- What is wrong with the result of a mutation does not depend on positions. -/
lemma resultProblems_unplaced (table : Table) (f : Field) :
    resultProblems table.unplaced f.unplaced = resultProblems table f := by
  have isErrorList (f : Field) : isErrorList table.unplaced f.unplaced = isErrorList table f := by
    rw [Rule.isErrorList, Rule.isErrorList, Field.type_unplaced, Table.kindOf?_unplaced]
  rw [resultProblems, resultProblems, Field.type_unplaced, Table.get?_unplaced]
  cases table.get? f.type.name with
  | none => rfl
  | some result =>
    simp only [Option.map_some, TypeDef.field?_unplaced, Option.any_map, isErrorList]
    rfl

/-- The rule on results of mutations overlooks positions. -/
lemma overlooksPlaces_mutationResultShape : mutationResultShape.OverlooksPlaces := by
  refine overlooksPlaces_onRootFields (fun _ => rfl) fun c f => ?_
  have problems : resultProblems c.unplaced.table f.unplaced = resultProblems c.table f :=
    resultProblems_unplaced c.table f
  rw [problems]
  split
  · exact nothing_eq_unplaced
  · exact one_eq_unplaced (.field f) _ _

/-- The rule on creating mutations overlooks positions. -/
lemma overlooksPlaces_createMutationShape : createMutationShape.OverlooksPlaces := by
  refine overlooksPlaces_onRootFields (fun _ => rfl) fun _ f => ?_
  have complaint (draft : String) : createMutationShape.complain f.unplaced draft =
      Findings.unplaced (createMutationShape.complain f draft) := one_eq_unplaced (.field f) _ _
  dsimp only
  rw [f.arguments_unplaced, List.length_map, List.head?_map, Option.bind_eq_bind, Option.bind_map]
  exact ite_eq_unplaced
    (bind_eq_unplaced fun _ => ite_eq_unplaced nothing_eq_unplaced (complaint _)) (complaint _)

/-- The rule on deleting mutations overlooks positions. -/
lemma overlooksPlaces_deleteMutationShape : deleteMutationShape.OverlooksPlaces := by
  refine overlooksPlaces_onRootFields (fun _ => rfl) fun _ f => ?_
  rw [f.argument?_unplaced, Option.any_map]
  exact ite_eq_unplaced nothing_eq_unplaced (one_eq_unplaced (.field f) _ _)

/-! ### Queries -/

/-- The rule on collections overlooks positions. -/
lemma overlooksPlaces_collectionQueryShape : collectionQueryShape.OverlooksPlaces :=
  overlooksPlaces_onRootFields (fun _ => rfl) fun _ f =>
    ite_eq_unplaced nothing_eq_unplaced (one_eq_unplaced (.field f) _ _)

/-- Whether a field is a look-up does not depend on positions. -/
lemma isLookup_unplaced (f : Field) : isLookup f.unplaced = isLookup f := by
  rw [isLookup, isLookup, f.arguments_unplaced]
  rcases f.arguments with _ | ⟨a, _ | ⟨b, more⟩⟩ <;> rfl

/-- The rule on look-ups overlooks positions. -/
lemma overlooksPlaces_byIdQueryShape : byIdQueryShape.OverlooksPlaces :=
  overlooksPlaces_onRootFields isLookup_unplaced fun _ f =>
    ite_eq_unplaced nothing_eq_unplaced (one_eq_unplaced (.field f) _ _)

/-! ### Parts of types -/

/-- The rule on identifiers overlooks positions if the judgement does. -/
lemma overlooksPlaces_idFieldPresence : idFieldPresence.OverlooksPlaces := by
  refine overlooksPlaces_onTypes fun c t overlooks => ?_
  have isEntity : c.unplaced.judgement.isEntity c.unplaced.table t.unplaced =
      c.judgement.isEntity c.table t := overlooks.isEntity c.table t
  rw [isEntity, t.field?_unplaced]
  refine ite_eq_unplaced ?_ nothing_eq_unplaced
  cases t.field? "id" with
  | none => exact one_eq_unplaced (.type t) _ _
  | some _ => exact ite_eq_unplaced nothing_eq_unplaced (one_eq_unplaced (.type t) _ _)

/-- The rule on the case of values overlooks positions. -/
lemma overlooksPlaces_enumValueCasing : enumValueCasing.OverlooksPlaces := by
  refine overlooksPlaces_onTypes fun _ t _ => ?_
  rw [t.values_unplaced, List.filter_map, List.map_map, unplaced, Option.map_some, List.map_map]
  rfl

end Rule

/-- A rule of the convention does not depend on positions. -/
lemma Rule.overlooksPlaces_of_mem_standardRules {rule : Rule} (mem : rule ∈ Catalog.standardRules) :
    rule.OverlooksPlaces := by
  revert rule
  simp only [Catalog.standardRules, List.forall_mem_cons]
  exact ⟨overlooksPlaces_typeCasing, overlooksPlaces_typeSingular, overlooksPlaces_typeKindSuffix,
    overlooksPlaces_inputSuffix, overlooksPlaces_filterSuffix, overlooksPlaces_fieldCasing,
    overlooksPlaces_fieldPlurality, overlooksPlaces_fieldRedundantName,
    overlooksPlaces_mutationNaming, overlooksPlaces_mutationResultShape,
    overlooksPlaces_createMutationShape, overlooksPlaces_deleteMutationShape,
    overlooksPlaces_collectionQueryShape, overlooksPlaces_byIdQueryShape,
    overlooksPlaces_idFieldPresence, overlooksPlaces_enumValueCasing,
    overlooksPlaces_booleanFieldPrefix, nofun⟩

end SchemaLint

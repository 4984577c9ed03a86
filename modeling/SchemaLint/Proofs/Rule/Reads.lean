import Mathlib
import SchemaLint.Catalog.Basic

/-!
# What rules read

A rule reads a few parts of its context only, and answers the same about an entity in two contexts
that agree in these: there is one lemma for each rule, and together they are
`Rule.sameAt_of_agreesFor`. In particular a rule of the convention answers the same in contexts that
are alike (`Rule.sameIn_of_alike`), where the order of the types in the table and the settings that no
rule reads do not matter.
-/

namespace SchemaLint

variable {table table' : Table} {c c' : Context}

/-! ## Tables -/

namespace Table

/-- Tables with the same roots have the same root types. -/
lemma isRoot_congr (roots : table.roots = table'.roots) (name : String) :
    table.isRoot name = table'.isRoot name := by
  rw [isRoot, isRoot, roots]

/-- Tables with the same roots have fields serve the same operations. -/
lemma operationOf?_congr (roots : table.roots = table'.roots) (f : Field) :
    table.operationOf? f = table'.operationOf? f := by
  rw [operationOf?, operationOf?, roots]

section
variable (get? : table.get? = table'.get?)
include get?

/-- Tables with the same types have the same kinds of types. -/
lemma kindOf?_congr (name : String) : table.kindOf? name = table'.kindOf? name := by
  rw [kindOf?, kindOf?, get?]

/-- Tables with the same types have the same leaves. -/
lemma isLeaf_congr (name : String) : table.isLeaf name = table'.isLeaf name := by
  rw [isLeaf, isLeaf, kindOf?_congr get?]

end

end Table

/-! ## Judgements -/

/-- The tables have the same types by name, the same roots and the same results of mutations. -/
structure Table.LooksLike (table table' : Table) : Prop where
  get? : table.get? = table'.get?
  roots : table.roots = table'.roots
  mutationResults : table.mutationResults = table'.mutationResults

namespace Judgement

/-- The judgement reads of a table only what is looked up in it. -/
structure LooksUp (j : Judgement) : Prop where
  isEntity : ∀ {table table' : Table}, table.LooksLike table' →
    j.isEntity table = j.isEntity table'
  repeats : ∀ {table table' : Table}, table.LooksLike table' →
    j.repeats table = j.repeats table'

/-- The judgement by names reads of a table what is looked up in it. -/
lemma looksUp_ofNames (allowed : List String) : (ofNames allowed).LooksUp where
  isEntity {table table'} alike := by
    funext t
    simp only [ofNames, entityByShape, Table.isRoot_congr alike.roots, alike.mutationResults,
      Table.isLeaf_congr alike.get?]
  repeats {table table'} alike := by
    funext f
    simp only [ofNames, repeatsByName, Table.isRoot_congr alike.roots]

end Judgement

/-! ## Rules -/

namespace Rule

/-- The rule answers the same about an entity in both contexts. -/
structure SameAt (rule : Rule) (c c' : Context) (e : Entity) : Prop where
  appliesTo : rule.appliesTo c e = rule.appliesTo c' e
  check? : rule.check? c e = rule.check? c' e

/-- The rule applies to the same entities in both contexts and finds the same about each. -/
structure SameIn (rule : Rule) (c c' : Context) : Prop where
  appliesTo : ∀ e, rule.appliesTo c e = rule.appliesTo c' e
  check? : ∀ e, rule.check? c e = rule.check? c' e

/-- A rule says the same in two contexts if it does so about every entity. -/
lemma sameIn_iff {rule : Rule} : rule.SameIn c c' ↔ ∀ e, rule.SameAt c c' e :=
  ⟨fun same e => ⟨same.appliesTo e, same.check? e⟩,
    fun same => ⟨fun e => (same e).appliesTo, fun e => (same e).check?⟩⟩

variable {e : Entity}

section
variable {id description : String} {severity : Severity} {heuristic : Bool}

/-- A rule for types says the same about a type if its check does. -/
lemma sameAt_onTypes {kinds : TypeKind → Bool} {check : Context → TypeDef → Findings}
    (same : ∀ t, e = .type t → check c t = check c' t) :
    (onTypes id description severity heuristic kinds check).SameAt c c' e where
  appliesTo := rfl
  check? :=
    match e with
    | .type t => same t rfl
    | .field _ => rfl
    | .argument _ => rfl

/-- A rule for fields says the same about a field if its test and its check do. -/
lemma sameAt_onFields {applies : Context → Field → Bool} {check : Context → Field → Findings}
    (applies_same : ∀ f, e = .field f → applies c f = applies c' f)
    (same : ∀ f, e = .field f → check c f = check c' f) :
    (onFields id description severity heuristic applies check).SameAt c c' e where
  appliesTo :=
    match e with
    | .type _ => rfl
    | .field f => applies_same f rfl
    | .argument _ => rfl
  check? :=
    match e with
    | .type _ => rfl
    | .field f => same f rfl
    | .argument _ => rfl

/-- A rule for the fields of a root says the same if the roots are the same and its check does. -/
lemma sameAt_onRootFields {operation : Sdl.Operation} {applies : Field → Bool}
    {check : Context → Field → Findings} (roots : c.table.roots = c'.table.roots)
    (same : ∀ f, e = .field f → check c f = check c' f) :
    (onRootFields id description operation applies check).SameAt c c' e := by
  refine sameAt_onFields (fun f _ => ?_) same
  rw [servesOperation, servesOperation, Table.operationOf?_congr roots]

end

/-! ### Names of types -/

/-- The rule on the case of types reads nothing of the context. -/
lemma sameAt_typeCasing : typeCasing.SameAt c c' e := sameAt_onTypes fun _ _ => rfl

/-- The rule on singular types reads what is plural. -/
lemma sameAt_typeSingular (isPlural : c.judgement.isPlural = c'.judgement.isPlural) :
    typeSingular.SameAt c c' e :=
  sameAt_onTypes fun _ _ => by rw [isPlural]

/-- The rule on suffixes for kinds reads nothing of the context. -/
lemma sameAt_typeKindSuffix : typeKindSuffix.SameAt c c' e := sameAt_onTypes fun _ _ => rfl

/-- The rule on the suffix of input types reads the suffixes. -/
lemma sameAt_inputSuffix (suffixes : c.options.suffixes = c'.options.suffixes) :
    inputSuffix.SameAt c c' e :=
  sameAt_onTypes fun _ _ => by rw [suffixes]

/-- The rule on filters reads the usages of the type. -/
lemma sameAt_filterSuffix
    (usages : ∀ t, e = .type t → c.table.usagesOf t.name = c'.table.usagesOf t.name) :
    filterSuffix.SameAt c c' e :=
  sameAt_onTypes fun t eq => by rw [usages t eq]

/-! ### Names of fields -/

/-- The rule on the case of fields reads nothing of the context. -/
lemma sameAt_fieldCasing : fieldCasing.SameAt c c' e := ⟨rfl, rfl⟩

/-- The rule on the plurality of fields reads what is plural. -/
lemma sameAt_fieldPlurality (isPlural : c.judgement.isPlural = c'.judgement.isPlural) :
    fieldPlurality.SameAt c c' e :=
  sameAt_onFields (fun _ _ => rfl) fun _ _ => by rw [isPlural]

/-- The rule on redundant names reads the names that are allowed, and which type a field repeats. -/
lemma sameAt_fieldRedundantName (allowed : c.options.allowed = c'.options.allowed)
    (repeats : ∀ f, e = .field f →
      c.judgement.repeats c.table f = c'.judgement.repeats c'.table f) :
    fieldRedundantName.SameAt c c' e :=
  sameAt_onFields (fun _ _ => rfl) fun f eq => by rw [allowed, repeats f eq]

/-- The rule on truth values reads the roots, the policy and the prefixes. -/
lemma sameAt_booleanFieldPrefix (roots : c.table.roots = c'.table.roots)
    (policy : c.options.policy = c'.options.policy)
    (prefixes : c.options.prefixes = c'.options.prefixes) : booleanFieldPrefix.SameAt c c' e := by
  refine sameAt_onFields (fun f _ => ?_) fun f _ => ?_
  · rw [policy, Table.isRoot_congr roots]
  · rw [policy, prefixes]

/-! ### Mutations -/

/-- The rule on the names of mutations reads the roots and the verbs. -/
lemma sameAt_mutationNaming (roots : c.table.roots = c'.table.roots)
    (verbs : c.options.verbs = c'.options.verbs) : mutationNaming.SameAt c c' e :=
  sameAt_onRootFields roots fun _ _ => by simp only [allowedSynonym?, verbs]

/-- What is wrong with the result of a mutation depends on the types only. -/
lemma resultProblems_congr (get? : table.get? = table'.get?) (f : Field) :
    resultProblems table f = resultProblems table' f := by
  have isErrorList : isErrorList table = isErrorList table' := by
    funext f
    rw [Rule.isErrorList, Rule.isErrorList, Table.kindOf?_congr get?]
  rw [resultProblems, resultProblems, get?, isErrorList]

/-- The rule on results of mutations reads the roots, and what is wrong with the result. -/
lemma sameAt_mutationResultShape (roots : c.table.roots = c'.table.roots)
    (results : ∀ f, e = .field f → resultProblems c.table f = resultProblems c'.table f) :
    mutationResultShape.SameAt c c' e :=
  sameAt_onRootFields roots fun f eq => by rw [results f eq]

/-- The rule on creating mutations reads the roots. -/
lemma sameAt_createMutationShape (roots : c.table.roots = c'.table.roots) :
    createMutationShape.SameAt c c' e :=
  sameAt_onRootFields roots fun _ _ => rfl

/-- The rule on deleting mutations reads the roots. -/
lemma sameAt_deleteMutationShape (roots : c.table.roots = c'.table.roots) :
    deleteMutationShape.SameAt c c' e :=
  sameAt_onRootFields roots fun _ _ => rfl

/-! ### Queries -/

/-- The rule on collections reads the roots. -/
lemma sameAt_collectionQueryShape (roots : c.table.roots = c'.table.roots) :
    collectionQueryShape.SameAt c c' e :=
  sameAt_onRootFields roots fun _ _ => rfl

/-- The rule on look-ups reads the roots. -/
lemma sameAt_byIdQueryShape (roots : c.table.roots = c'.table.roots) :
    byIdQueryShape.SameAt c c' e :=
  sameAt_onRootFields roots fun _ _ => rfl

/-! ### Parts of types -/

/-- The rule on identifiers reads which types are entities. -/
lemma sameAt_idFieldPresence
    (isEntity : ∀ t, e = .type t →
      c.judgement.isEntity c.table t = c'.judgement.isEntity c'.table t) :
    idFieldPresence.SameAt c c' e :=
  sameAt_onTypes fun t eq => by rw [isEntity t eq]

/-- The rule on the case of values reads nothing of the context. -/
lemma sameAt_enumValueCasing : enumValueCasing.SameAt c c' e := sameAt_onTypes fun _ _ => rfl

end Rule

/-! ## What each rule reads -/

/-- The contexts agree in what the rule of an id reads when it looks at an entity. -/
structure Context.AgreesFor (id : String) (c c' : Context) (e : Entity) : Prop where
  roots : c.table.roots = c'.table.roots
  isPlural : id ∈ ["TypeSingular", "FieldPlurality"] → c.judgement.isPlural = c'.judgement.isPlural
  suffixes : id = "InputSuffix" → c.options.suffixes = c'.options.suffixes
  usages : id = "FilterSuffix" →
    ∀ t, e = .type t → c.table.usagesOf t.name = c'.table.usagesOf t.name
  allowed : id = "FieldRedundantName" → c.options.allowed = c'.options.allowed
  repeats : id = "FieldRedundantName" →
    ∀ f, e = .field f → c.judgement.repeats c.table f = c'.judgement.repeats c'.table f
  verbs : id = "MutationNaming" → c.options.verbs = c'.options.verbs
  results : id = "MutationResultShape" →
    ∀ f, e = .field f → Rule.resultProblems c.table f = Rule.resultProblems c'.table f
  isEntity : id = "IdFieldPresence" →
    ∀ t, e = .type t → c.judgement.isEntity c.table t = c'.judgement.isEntity c'.table t
  policy : id = "BooleanFieldPrefix" → c.options.policy = c'.options.policy
  prefixes : id = "BooleanFieldPrefix" → c.options.prefixes = c'.options.prefixes

/-- A rule of the convention answers the same about an entity in contexts that agree in what it
reads. -/
lemma Rule.sameAt_of_agreesFor {rule : Rule} (mem : rule ∈ Catalog.standardRules) {e : Entity}
    (agrees : c.AgreesFor rule.id c' e) : rule.SameAt c c' e := by
  revert rule
  simp only [Catalog.standardRules, List.forall_mem_cons]
  exact ⟨fun _ => sameAt_typeCasing, fun agrees => sameAt_typeSingular (agrees.isPlural (by decide)),
    fun _ => sameAt_typeKindSuffix, fun agrees => sameAt_inputSuffix (agrees.suffixes rfl),
    fun agrees => sameAt_filterSuffix (agrees.usages rfl), fun _ => sameAt_fieldCasing,
    fun agrees => sameAt_fieldPlurality (agrees.isPlural (by decide)),
    fun agrees => sameAt_fieldRedundantName (agrees.allowed rfl) (agrees.repeats rfl),
    fun agrees => sameAt_mutationNaming agrees.roots (agrees.verbs rfl),
    fun agrees => sameAt_mutationResultShape agrees.roots (agrees.results rfl),
    fun agrees => sameAt_createMutationShape agrees.roots,
    fun agrees => sameAt_deleteMutationShape agrees.roots,
    fun agrees => sameAt_collectionQueryShape agrees.roots,
    fun agrees => sameAt_byIdQueryShape agrees.roots,
    fun agrees => sameAt_idFieldPresence (agrees.isEntity rfl), fun _ => sameAt_enumValueCasing,
    fun agrees => sameAt_booleanFieldPrefix agrees.roots (agrees.policy rfl) (agrees.prefixes rfl),
    nofun⟩

/-! ## Alike contexts -/

/-- The contexts agree in all that rules read, but for the usages of types. -/
structure Context.Alike (c c' : Context) : Prop where
  get? : c.table.get? = c'.table.get?
  roots : c.table.roots = c'.table.roots
  verbs : c.options.verbs = c'.options.verbs
  allowed : c.options.allowed = c'.options.allowed
  suffixes : c.options.suffixes = c'.options.suffixes
  policy : c.options.policy = c'.options.policy
  prefixes : c.options.prefixes = c'.options.prefixes
  isPlural : c.judgement.isPlural = c'.judgement.isPlural
  isEntity : c.judgement.isEntity c.table = c'.judgement.isEntity c'.table
  repeats : c.judgement.repeats c.table = c'.judgement.repeats c'.table

/-- A rule of the convention answers the same in alike contexts. The usages of types matter to
`filterSuffix` only. -/
lemma Rule.sameIn_of_alike {rule : Rule} (mem : rule ∈ Catalog.standardRules) (alike : c.Alike c')
    (usages : rule.id = "FilterSuffix" → c.table.usagesOf = c'.table.usagesOf) :
    rule.SameIn c c' := by
  refine sameIn_iff.2 fun e => sameAt_of_agreesFor mem ?_
  exact {
    roots := alike.roots
    isPlural := fun _ => alike.isPlural
    suffixes := fun _ => alike.suffixes
    usages := fun id t _ => congrFun (usages id) t.name
    allowed := fun _ => alike.allowed
    repeats := fun _ f _ => congrFun alike.repeats f
    verbs := fun _ => alike.verbs
    results := fun _ f _ => resultProblems_congr alike.get? f
    isEntity := fun _ t _ => congrFun alike.isEntity t
    policy := fun _ => alike.policy
    prefixes := fun _ => alike.prefixes }

end SchemaLint

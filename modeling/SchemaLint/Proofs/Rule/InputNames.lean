import Mathlib
import SchemaLint.Proofs.Rule.Arguments
import SchemaLint.Proofs.Rule.Reserved
import SchemaLint.Proofs.Rule.Results
import SchemaLint.Rule.TypeNames

/-!
# Names of input types that are asked for

Which names an input type may have is a matter of the options, but two rules ask for names of their
own: one for the type of an argument called `filter` and one for the type of a draft. Whether such a
name may be given depends on the suffixes that the options accept, and not only on those that are whole
roles: one may also hold the end of what stands in front of the role. What the options must accept for
this is told by `Rule.askedNames_acceptsInput_iff`.
-/

namespace SchemaLint

/-! ## Endings -/

namespace Word

/-- A suffix ends the name of a thing in its role: it ends the role, or holds all of the role and ends
the thing with the rest. -/
def EndsIn (suffix thing role : String) : Prop :=
  endsWith role suffix ∨ ∃ front, suffix = front ++ role ∧ endsWith thing front

/-- A name of two parts ends with a suffix if this is the end of the second, or reaches into the
first. -/
lemma endsWith_append_iff {thing role suffix : String} :
    endsWith (thing ++ role) suffix ↔ EndsIn suffix thing role := by
  rw [EndsIn, endsWith_iff, endsWith_iff]
  constructor
  · rintro ⟨front, same⟩
    rw [← String.toList_inj, String.toList_append, String.toList_append,
      List.append_eq_append_iff] at same
    obtain ⟨rest, -, text⟩ | ⟨rest, whole, text⟩ := same
    · refine .inl ⟨String.ofList rest, ?_⟩
      rw [← String.toList_inj, String.toList_append, String.toList_ofList, text]
    · refine .inr ⟨String.ofList rest, ?_, endsWith_iff.2 ⟨front, ?_⟩⟩
      · rw [← String.toList_inj, String.toList_append, String.toList_ofList, text]
      · rw [← String.toList_inj, String.toList_append, String.toList_ofList, whole]
  · rintro (⟨front, rfl⟩ | ⟨rest, rfl, ends⟩)
    · exact ⟨thing ++ front, String.append_assoc.symm⟩
    · obtain ⟨front, rfl⟩ := endsWith_iff.1 ends
      exact ⟨front, String.append_assoc⟩

instance {suffix thing role : String} : Decidable (EndsIn suffix thing role) :=
  decidable_of_iff _ endsWith_append_iff

end Word

/-! ## Names that are accepted -/

/-- An input type may be called so: the rule about suffixes reports no input type of this name. -/
def Options.AcceptsInput (o : Options) (name : String) : Prop :=
  ∀ (context : Context) (t : TypeDef), context.options = o → t.kind = .input → t.name = name →
    Rule.inputSuffix.reported context (.type t) = []

namespace Rule

open Word (startsUpper stripSuffix roleSuffixes EndsIn)

variable {context : Context} {t : TypeDef} {thing role : String}

/-- A rule for types applies to those of its kinds whose names are not reserved. -/
lemma appliesTo_onTypes_iff {id description : String} {severity : Severity} {heuristic : Bool}
    {kinds : TypeKind → Bool} {check : Context → TypeDef → Findings} :
    (onTypes id description severity heuristic kinds check).appliesTo context (.type t) ↔
      isReserved t.name = false ∧ kinds t.kind := by
  show !isReserved t.name && kinds t.kind ↔ _
  rw [Bool.and_eq_true, Bool.not_eq_true']

/-- A rule for input types applies to those whose names are not reserved. -/
lemma appliesTo_onInputs_iff {id description : String} {severity : Severity} {heuristic : Bool}
    {check : Context → TypeDef → Findings} :
    (onTypes id description severity heuristic (· == .input) check).appliesTo context (.type t) ↔
      isReserved t.name = false ∧ t.kind = .input := by
  rw [appliesTo_onTypes_iff, beq_iff_eq]

/-- The rule about suffixes reports nothing of input types whose names end with a suffix, and of these
alone, reserved names aside. -/
lemma inputSuffix_reported_eq_nil_iff :
    inputSuffix.reported context (.type t) = [] ↔
      (t.kind = .input → isReserved t.name = false →
        ∃ s ∈ context.options.suffixes, Word.endsWith t.name s) := by
  have applies : inputSuffix.appliesTo context (.type t) ↔ _ := appliesTo_onInputs_iff
  by_cases fits : inputSuffix.appliesTo context (.type t)
  · obtain ⟨named, input⟩ := applies.1 fits
    rw [reported, if_pos fits]
    simp only [input, named, forall_const]
    by_cases ends : context.options.suffixes.any (Word.endsWith t.name)
    · have found : inputSuffix.check? context (.type t) = .nothing := if_pos ends
      rw [diagnostics, found]
      exact iff_of_true rfl (List.any_eq_true.1 ends)
    · have found : inputSuffix.check? context (.type t) = _ := if_neg ends
      obtain ⟨s, suffixes, list⟩ := List.exists_cons_of_ne_nil context.options.suffixes_ne
      rw [diagnostics, found, list]
      refine iff_of_false (List.cons_ne_nil _ _) ?_
      rwa [← list, ← List.any_eq_true]
  · rw [reported, if_neg fits]
    exact iff_of_true rfl fun input named => absurd (applies.2 ⟨named, input⟩) fits

/-- Besides reserved names those are accepted that a suffix ends. -/
lemma acceptsInput_iff (context : Context) {name : String} (named : isReserved name = false) :
    context.options.AcceptsInput name ↔ ∃ s ∈ context.options.suffixes, Word.endsWith name s := by
  constructor
  · intro accepts
    let t : TypeDef := ⟨name, .input, [], [], [], [], ⟨1, 1⟩⟩
    exact inputSuffix_reported_eq_nil_iff.1 (accepts context t rfl rfl rfl) rfl named
  · rintro ends other t same - rfl
    rw [inputSuffix_reported_eq_nil_iff, same]
    exact fun _ _ => ends

/-- A name of two parts is accepted if it ends with one of the suffixes. -/
lemma acceptsInput_append_iff (context : Context) {c : Char} (head : role.toList.head? = some c)
    (ne : c ≠ '_') (named : isReserved thing = false) :
    context.options.AcceptsInput (thing ++ role) ↔
      ∃ s ∈ context.options.suffixes, EndsIn s thing role := by
  have whole : isReserved (thing ++ role) = false := by
    rw [isReserved_append, named]
    intro d mem
    rw [head] at mem
    cases mem
    exact ne
  rw [acceptsInput_iff context whole]
  simp only [Word.endsWith_append_iff]

/-! ## Names that are asked for -/

/-- The finding about a type of an argument called `filter`. -/
def filterFinding (t : TypeDef) (a : Argument) : Finding where
  message := s!"Input type '{t.name}' is used as a 'filter' argument " ++
    s!"({a.owner}.{a.field}) and should end with 'Filter'"
  fix := some (stripSuffix roleSuffixes t.name ++ "Filter")
  location := .ofEntity (.type t)

/-- The rule about filters reports an input type for the first of its usages called `filter`. -/
lemma filterSuffix_reported :
    filterSuffix.reported context (.type t) =
      if (isReserved t.name = false ∧ t.kind = .input) ∧ Word.endsWith t.name "Filter" = false then
        (((context.table.usagesOf t.name).find? (·.name == "filter")).map fun a =>
          filterSuffix.diagnostic (filterFinding t a)).toList
      else [] := by
  have applies : filterSuffix.appliesTo context (.type t) ↔ _ := appliesTo_onInputs_iff
  have check : filterSuffix.check? context (.type t) =
      if Word.endsWith t.name "Filter" then some []
      else some (((context.table.usagesOf t.name).filter (·.name == "filter")).head?.map
        (filterFinding t)).toList := by
    refine if_congr Iff.rfl rfl ?_
    cases (context.table.usagesOf t.name).filter (·.name == "filter") <;> rfl
  rw [reported, diagnostics, check, List.head?_filter]
  by_cases fits : isReserved t.name = false ∧ t.kind = .input
  · rw [if_pos (applies.2 fits)]
    by_cases ends : Word.endsWith t.name "Filter"
    · rw [if_pos ends, if_neg fun other => Bool.eq_false_iff.1 other.2 ends]
      rfl
    · rw [if_neg ends, if_pos ⟨fits, Bool.eq_false_iff.2 ends⟩]
      cases (context.table.usagesOf t.name).find? (·.name == "filter") <;> rfl
  · rw [if_neg fun other => fits (applies.1 other), if_neg fun other => fits other.1]

/-- The rule about filters proposes one name for a type, and reports no reserved names. -/
lemma of_mem_filterSuffix {d : Diagnostic} (mem : d ∈ filterSuffix.reported context (.type t)) :
    isReserved t.name = false ∧ d.fix = some (stripSuffix roleSuffixes t.name ++ "Filter") := by
  rw [filterSuffix_reported] at mem
  split at mem
  case isFalse => cases mem
  case isTrue fits =>
    obtain ⟨a, -, rfl⟩ := Option.map_eq_some_iff.1 (Option.mem_toList.1 mem)
    exact ⟨fits.1.1, rfl⟩

/-- An object with a capital in front is not reserved. -/
lemma isReserved_of_startsUpper {x : String} (upper : startsUpper x) : isReserved x = false := by
  obtain ⟨c, head, capital⟩ := Word.startsUpper_iff.1 upper
  obtain ⟨cs, text⟩ := List.head?_eq_some_iff.1 head
  have other : ('_' == c) = false := by
    rw [beq_eq_false_iff_ne]
    rintro rfl
    cases capital
  rw [isReserved, text, List.isPrefixOf, other, Bool.false_and]

/-- The names that are asked for, and what the suffixes must be for them to be accepted. The rule about
filters proposes what the name of a type is without its role, in the role of a filter, and a mutation
`createX` is reported unless it takes an `XDraft`. Each may be the name of an input type just if an
accepted suffix ends it, as one of the role alone does for all names. -/
theorem askedNames_acceptsInput_iff (context : Context) :
    (∀ t, ∀ d ∈ filterSuffix.reported context (.type t),
      let thing := stripSuffix roleSuffixes t.name
      d.fix = some (thing ++ "Filter") ∧
      (context.options.AcceptsInput (thing ++ "Filter") ↔
        ∃ s ∈ context.options.suffixes, EndsIn s thing "Filter")) ∧
    ∀ f x, context.table.operationOf? f = some .mutation → startsUpper x → f.name = "create" ++ x →
      (createMutationShape.reported context (.field f) = [] ↔
        takesOnly f "draft" (x ++ "Draft")) ∧
      (context.options.AcceptsInput (x ++ "Draft") ↔
        ∃ s ∈ context.options.suffixes, EndsIn s x "Draft") := by
  constructor
  · intro t d mem thing
    obtain ⟨named, fix⟩ := of_mem_filterSuffix mem
    have thing_named : isReserved thing = false := by
      rw [← Bool.not_eq_true] at named ⊢
      exact mt (isReserved_of_isPrefix Word.stripSuffix_isPrefix) named
    exact ⟨fix, acceptsInput_append_iff context rfl (by decide) thing_named⟩
  · intro f x serves upper text
    refine ⟨?_, acceptsInput_append_iff context rfl (by decide) (isReserved_of_startsUpper upper)⟩
    rw [createMutationShape_reportsIff_takesOnly.reported_eq_nil_iff]
    constructor
    · intro silent
      by_contra other
      exact silent ⟨serves, x, upper, text, other⟩
    · rintro takes ⟨-, y, -, same, other⟩
      have object : x = y := by
        rw [text, ← String.toList_inj, String.toList_append, String.toList_append] at same
        exact String.toList_inj.1 (List.append_cancel_left same)
      exact other (object ▸ takes)

/-- A document with a filter and a draft, both of the one input type. -/
def roleDocument : Sdl.Document where
  definitions := [
    .type false ⟨"Query", ⟨1, 6⟩⟩ (.object []
      [⟨⟨"users", ⟨1, 14⟩⟩, [⟨⟨"filter", ⟨1, 20⟩⟩, .named ⟨"UserInput", ⟨1, 28⟩⟩ false⟩],
        .named ⟨"Int", ⟨1, 40⟩⟩ false⟩]),
    .type false ⟨"Mutation", ⟨2, 6⟩⟩ (.object []
      [⟨⟨"createUser", ⟨2, 17⟩⟩, [⟨⟨"draft", ⟨2, 28⟩⟩, .named ⟨"UserInput", ⟨2, 35⟩⟩ true⟩],
        .named ⟨"Int", ⟨2, 48⟩⟩ false⟩]),
    .type false ⟨"UserInput", ⟨3, 7⟩⟩ (.input
      [⟨⟨"name", ⟨3, 19⟩⟩, [], .named ⟨"String", ⟨3, 25⟩⟩ false⟩])]
  origin := none

/-- What a rule looks at in the schema of the document under some suffixes. -/
def roleContext (suffixes : List String) (ne : suffixes ≠ []) : Context where
  table := .ofTypes roleDocument.types roleDocument.roots "<schema>"
  options := { Options.default with suffixes := suffixes, suffixes_ne := ne }
  judgement := .ofNames []

/-- The type of the filter and of the draft. -/
def roleType : TypeDef where
  name := "UserInput"
  kind := .input
  fields := [⟨"name", "UserInput", ⟨"String", true, 0, none, "String"⟩, [], ⟨3, 19⟩⟩]
  values := []
  members := []
  interfaces := []
  position := ⟨3, 7⟩

/-- A suffix with the end of what stands in front of the role accepts a filter of users, and nothing
accepts their draft. -/
theorem askedNames_acceptsInput_iff_users :
    let context := roleContext ["Input", "rFilter"] (by decide)
    let create : Field := ⟨"createUser", "Mutation", ⟨"Int", true, 0, none, "Int"⟩,
      [⟨"draft", .required "UserInput", "Mutation", "createUser", ⟨2, 28⟩⟩], ⟨2, 17⟩⟩
    Table.build roleDocument none = .ok context.table ∧
    (∃ d ∈ filterSuffix.reported context (.type roleType), d.fix = some "UserFilter") ∧
    context.options.AcceptsInput "UserFilter" ∧
    createMutationShape.reported context (.field create) ≠ [] ∧
    ¬context.options.AcceptsInput "UserDraft" := by
  intro context create
  obtain ⟨filters, drafts⟩ := askedNames_acceptsInput_iff context
  have told : filterSuffix.reported context (.type roleType) ≠ [] := by decide +kernel
  obtain ⟨d, mem⟩ := List.exists_mem_of_ne_nil _ told
  obtain ⟨fix, accepted⟩ := filters roleType d mem
  obtain ⟨silent, unaccepted⟩ := drafts create "User" (by decide +kernel) (by decide) rfl
  have thing : stripSuffix roleSuffixes roleType.name = "User" := by decide +kernel
  rw [thing] at fix accepted
  refine ⟨rfl, ⟨d, mem, fix⟩, accepted.2 ?_, mt silent.1 (by decide), mt unaccepted.1 ?_⟩
  · exact ⟨"rFilter", by decide, .inr ⟨"r", rfl, by decide⟩⟩
  · decide +kernel

/-- A name that is proposed for a filter need not be accepted: the only suffix may be that of another
role. -/
theorem askedNames_refused_filter :
    ¬∀ (context : Context) (t : TypeDef) (d : Diagnostic) (name : String),
      d ∈ filterSuffix.reported context (.type t) → d.fix = some name →
      context.options.AcceptsInput name := by
  intro accepts
  let context := roleContext ["Input"] (by decide)
  have told : filterSuffix.reported context (.type roleType) ≠ [] := by decide +kernel
  obtain ⟨d, mem⟩ := List.exists_mem_of_ne_nil _ told
  obtain ⟨-, fix⟩ := of_mem_filterSuffix mem
  have thing : stripSuffix roleSuffixes roleType.name = "User" := by decide +kernel
  rw [thing] at fix
  have silent := accepts context roleType d "UserFilter" mem fix context
    { roleType with name := "UserFilter" } rfl rfl rfl
  exact absurd silent (by decide +kernel)

end Rule

end SchemaLint

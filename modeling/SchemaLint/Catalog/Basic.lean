import SchemaLint.Problem
import SchemaLint.Rule.FieldNames
import SchemaLint.Rule.Mutations
import SchemaLint.Rule.Queries
import SchemaLint.Rule.TypeNames
import SchemaLint.Rule.TypeParts
import SchemaLint.Text.Similar

/-!
# Catalogs

A catalog is an ordered collection of rules with different ids, some of which may be disabled. Rules
are added at the end. Only rules of the catalog can be disabled, and a rule that is taken out is
forgotten, so that it comes back enabled and at the end.

A run takes the enabled rules in order, apart from those that the options disable; ids in the options
that the catalog does not know are refused.

The standard catalog has the rules of the convention, in the order in which their diagnostics about
one entity are told.
-/

namespace SchemaLint

/-- An ordered collection of rules. -/
structure Catalog where
  rules : List Rule
  disabled : List String

/-- Why a catalog refuses a change. -/
inductive CatalogFault where
  | alreadyRegistered (id : String)
  | unknownRule (p : Problem)

/-- The wording of a refusal. -/
def CatalogFault.message : CatalogFault → String
  | alreadyRegistered id => s!"rule '{id}' is already registered"
  | unknownRule p => p.message

namespace Catalog

/-- The catalog without rules. -/
def empty : Catalog := ⟨[], []⟩

/-- The ids of all rules in order. -/
def names (c : Catalog) : List String := c.rules.map (·.id)

/-- The catalog has a rule of the id. -/
def contains (c : Catalog) (id : String) : Bool := c.names.contains id

/-- The rule of an id. -/
def get? (c : Catalog) (id : String) : Option Rule := c.rules.find? (·.id == id)

/-- The rules that are not disabled, in order. -/
def enabled (c : Catalog) : List Rule := c.rules.filter fun r => !c.disabled.contains r.id

/-- The place of each rule. -/
def order (c : Catalog) : List (String × Nat) := c.names.zipIdx

/-- The problem that a setting names a rule which the catalog does not have. -/
def unknownRule (c : Catalog) (id setting : String) : Problem :=
  let problem := Problem.ofOptions (.unknownRule id setting)
  match Text.Similar.suggest id c.names with
  | best :: _ => problem.withHint s!"Did you mean '{best}'?"
  | [] =>
    let known := ", ".intercalate c.names
    problem.note s!"Known rules: {known}"

/-- Refuses the first of some ids that the catalog does not have. -/
def validate (c : Catalog) (setting : String) (ids : List String) : Except Problem Unit :=
  match ids.find? (!c.contains ·) with
  | some id => .error (c.unknownRule id setting)
  | none => .ok ()

/-- A change of a catalog, or a check that leaves it as it is. -/
inductive Change where
  | register (rule : Rule)
  | unregister (id : String)
  | disable (id : String)
  | enable (id : String)
  | validate (setting : String) (ids : List String)

/-- The catalog with one more rule at the end. -/
def register (c : Catalog) (rule : Rule) : Except CatalogFault Catalog :=
  if c.contains rule.id then .error (.alreadyRegistered rule.id)
  else .ok { c with rules := c.rules ++ [rule] }

/-- The catalog without the rule of an id. -/
def unregister (c : Catalog) (id : String) : Catalog :=
  ⟨c.rules.filter (·.id ≠ id), c.disabled.filter (· ≠ id)⟩

/-- The catalog in which a rule is disabled. -/
def disable (c : Catalog) (id : String) : Except CatalogFault Catalog :=
  match c.validate "rule" [id] with
  | .error p => .error (.unknownRule p)
  | .ok () => .ok { c with disabled := id :: c.disabled.filter (· ≠ id) }

/-- The catalog in which a rule is not disabled. -/
def enable (c : Catalog) (id : String) : Catalog :=
  { c with disabled := c.disabled.filter (· ≠ id) }

/-- The catalog after a change. -/
def apply (c : Catalog) : Change → Except CatalogFault Catalog
  | .register rule => c.register rule
  | .unregister id => .ok (c.unregister id)
  | .disable id => c.disable id
  | .enable id => .ok (c.enable id)
  | .validate setting ids =>
    match c.validate setting ids with
    | .error p => .error (.unknownRule p)
    | .ok () => .ok c

/-- The catalog of some rules in order. -/
def ofRules (rules : List Rule) : Except CatalogFault Catalog :=
  rules.foldlM register empty

/-- The ids that the options name, each list with the setting that it is from. -/
def idsOf (options : Options) : List (String × List String) :=
  [("disabledRules", options.disabled.names), ("severityOverrides", options.severities.names),
    ("ignore", options.ignoreRules.mergeSort (· ≤ ·))]

/-- The rules of a run. -/
def rulesFor (c : Catalog) (options : Options) : Except Problem (List Rule) := do
  (idsOf options).forM fun setting => c.validate setting.1 setting.2
  return c.enabled.filter fun r => !options.disabled.contains r.id

/-! ## The standard catalog -/

/-- The rules of the convention. -/
def standardRules : List Rule :=
  [.typeCasing, .typeSingular, .typeKindSuffix, .inputSuffix, .filterSuffix, .fieldCasing,
    .fieldPlurality, .fieldRedundantName, .mutationNaming, .mutationResultShape,
    .createMutationShape, .deleteMutationShape, .collectionQueryShape, .byIdQueryShape,
    .idFieldPresence, .enumValueCasing, .booleanFieldPrefix]

/-- The catalog of the rules of the convention, all of which are enabled. -/
def standard : Catalog := ⟨standardRules, []⟩

/-- The catalog itself if it has rules, else the standard catalog. -/
def orStandard (c : Catalog) : Catalog := if c.rules.isEmpty then standard else c

end Catalog
end SchemaLint

import SchemaLint.Diagnostic
import SchemaLint.Judgement
import SchemaLint.Options.Basic

/-!
# Rules

A rule looks at entities of some kinds, one at a time, and finds what is wrong with them. It depends
on the entity, the schema, the options and the judgement only.

A check may ask for the first or last of several things. Its answer is `none` if there is no such
thing, which no check of the catalog comes to (see the proofs about it).
-/

namespace SchemaLint

/-- What a check may look at besides its entity. -/
structure Context where
  table : Table
  options : Options
  judgement : Judgement

/-- What a check finds: a message, a replacement if it knows one, and the place. -/
structure Finding where
  message : String
  fix : Option String
  location : Location
  deriving DecidableEq, Repr

/-- What checks answer. -/
abbrev Findings := Option (List Finding)

/-- A rule of the linter. A heuristic rule rests on a judgement. -/
structure Rule where
  id : String
  description : String
  targets : List EntityKind
  severity : Severity
  heuristic : Bool
  appliesTo : Context → Entity → Bool
  check? : Context → Entity → Findings

namespace Rule

/-- The diagnostic of a finding. -/
def diagnostic (rule : Rule) (f : Finding) : Diagnostic :=
  ⟨rule.id, rule.severity, f.message, f.location, f.fix⟩

/-- The diagnostics of a rule about an entity. -/
def diagnostics (rule : Rule) (context : Context) (e : Entity) : List Diagnostic :=
  ((rule.check? context e).getD []).map rule.diagnostic

/-- The rule as it is shown. -/
def text (rule : Rule) : String := s!"<{rule.id} '{rule.id}'>"

end Rule

/-- Nothing is wrong. -/
def Findings.nothing : Findings := some []

/-- One thing is wrong with an entity. -/
def Findings.one (e : Entity) (message : String) (fix : Option String := none) : Findings :=
  some [⟨message, fix, .ofEntity e⟩]

/-- Names that the schema language keeps for itself. -/
def isReserved (name : String) : Bool := ['_', '_'].isPrefixOf name.toList

/-- A check of types as a check of entities. -/
def checkTypes (check : Context → TypeDef → Findings) (context : Context) : Entity → Findings
  | .type t => check context t
  | _ => .nothing

/-- A check of fields as a check of entities. -/
def checkFields (check : Context → Field → Findings) (context : Context) : Entity → Findings
  | .field f => check context f
  | _ => .nothing

/-- A rule about types of some kinds, except those with reserved names. -/
def Rule.onTypes (id description : String) (severity : Severity) (heuristic : Bool)
    (kinds : TypeKind → Bool) (check : Context → TypeDef → Findings) : Rule where
  id := id
  description := description
  targets := [.type]
  severity := severity
  heuristic := heuristic
  appliesTo _ e :=
    match e with
    | .type t => !isReserved t.name && kinds t.kind
    | _ => false
  check? := checkTypes check

/-- A rule about some fields. -/
def Rule.onFields (id description : String) (severity : Severity) (heuristic : Bool)
    (applies : Context → Field → Bool) (check : Context → Field → Findings) : Rule where
  id := id
  description := description
  targets := [.field]
  severity := severity
  heuristic := heuristic
  appliesTo context e :=
    match e with
    | .field f => applies context f
    | _ => false
  check? := checkFields check

/-- The field belongs to the root type of the operation. -/
def servesOperation (operation : Sdl.Operation) (context : Context) (f : Field) : Bool :=
  context.table.operationOf? f == some operation

/-- A rule about some fields of the root type of an operation, whose violation is an error. -/
def Rule.onRootFields (id description : String) (operation : Sdl.Operation)
    (applies : Field → Bool) (check : Context → Field → Findings) : Rule :=
  .onFields id description .error false
    (fun context f => servesOperation operation context f && applies f) check

end SchemaLint

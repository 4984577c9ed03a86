import SchemaLint.Diagnostic
import SchemaLint.NameMap
import SchemaLint.Options.Fault

/-!
# Options

Everything that tunes a run of the linter. Options are valid by construction: there is an allowed
verb, an accepted suffix and at least one worker. A draft holds the same things without these
guarantees; checking it gives options or a fault.
-/

namespace SchemaLint

/-- Whether the name of a Boolean field must, must not or may start with a word such as `is`. -/
inductive PrefixPolicy where
  | ignore | require | forbid
  deriving DecidableEq, Repr

namespace PrefixPolicy

/-- The word for a policy. -/
def text : PrefixPolicy → String
  | ignore => "ignore"
  | require => "require"
  | forbid => "forbid"

/-- All policies. -/
def all : List PrefixPolicy := [ignore, require, forbid]

/-- The policy of a word. -/
def ofText? (s : String) : Option PrefixPolicy := all.find? (·.text == s)

end PrefixPolicy

/-- A rule, or all for the wildcard, that is silenced on the entities whose path matches a pattern. -/
structure IgnoreEntry where
  rule : String
  pattern : String
  deriving DecidableEq, Repr

/-- What tunes a run, before it has been checked. -/
structure OptionsDraft where
  verbs : NameSet
  allowed : NameSet
  disabled : NameSet
  severities : NameMap Severity
  suffixes : List String
  policy : String
  prefixes : List String
  ignore : List IgnoreEntry
  jobs : Int

/-- What tunes a run of the linter.

* `verbs`: first words that a mutation may have;
* `allowed`: names of fields that may repeat the name of a type;
* `disabled`: rules that are not run;
* `severities`: severities that replace those of the rules;
* `suffixes`: endings that the name of an input type may have;
* `policy` and `prefixes`: first words of Boolean fields, and what is thought of them;
* `ignore`: rules that are silenced on some entities;
* `jobs`: number of workers. -/
structure Options where
  verbs : NameSet
  allowed : NameSet
  disabled : NameSet
  severities : NameMap Severity
  suffixes : List String
  policy : PrefixPolicy
  prefixes : List String
  ignore : List IgnoreEntry
  jobs : Nat
  verbs_ne : verbs.entries ≠ []
  suffixes_ne : suffixes ≠ []
  jobs_pos : 0 < jobs
  deriving DecidableEq

namespace OptionsDraft

/-- The draft of a run that nothing is said about. -/
def default : OptionsDraft where
  verbs := .ofNames ["create", "update", "delete", "set", "track"]
  allowed := .ofNames ["dateOfBirth"]
  disabled := .empty
  severities := .empty
  suffixes := ["Input", "Filter", "Draft"]
  policy := "ignore"
  prefixes := ["is", "has", "can", "should", "was"]
  ignore := []
  jobs := 1

/-- The options of a draft. Of several faults the one of the policy counts first, then that of the
workers, the verbs and the suffixes. -/
def check (d : OptionsDraft) : Except OptionsFault Options :=
  match PrefixPolicy.ofText? d.policy with
  | none => .error (.unknownPolicy d.policy)
  | some policy =>
    if jobs : d.jobs < 1 then .error (.tooFewJobs d.jobs)
    else if verbs : d.verbs.entries = [] then .error .noVerbs
    else if suffixes : d.suffixes = [] then .error .noSuffixes
    else .ok ⟨d.verbs, d.allowed, d.disabled, d.severities, d.suffixes, policy, d.prefixes,
      d.ignore, d.jobs.toNat, verbs, suffixes, by omega⟩

end OptionsDraft

namespace Options

/-- The options as a draft. -/
def toDraft (o : Options) : OptionsDraft :=
  ⟨o.verbs, o.allowed, o.disabled, o.severities, o.suffixes, o.policy.text, o.prefixes, o.ignore,
    o.jobs⟩

/-- The options of a run that nothing is said about. -/
def default : Options where
  verbs := OptionsDraft.default.verbs
  allowed := OptionsDraft.default.allowed
  disabled := .empty
  severities := .empty
  suffixes := OptionsDraft.default.suffixes
  policy := .ignore
  prefixes := OptionsDraft.default.prefixes
  ignore := []
  jobs := 1
  verbs_ne := by decide +kernel
  suffixes_ne := by decide
  jobs_pos := by decide

/-- The rules that the options silence on some entities, by id. -/
def ignoreRules (o : Options) : List String :=
  (o.ignore.map (·.rule)).filter (· ≠ "*")

end Options

/-- Changes to options; what is absent stays as it is. -/
structure OptionsChange where
  verbs : Option NameSet := none
  allowed : Option NameSet := none
  disabled : Option NameSet := none
  severities : Option (NameMap Severity) := none
  suffixes : Option (List String) := none
  policy : Option String := none
  prefixes : Option (List String) := none
  ignore : Option (List IgnoreEntry) := none
  jobs : Option Int := none

/-- The options with some changes, if these leave them valid. -/
def Options.merge (o : Options) (c : OptionsChange) : Except OptionsFault Options :=
  let d := o.toDraft
  OptionsDraft.check
    ⟨c.verbs.getD d.verbs, c.allowed.getD d.allowed, c.disabled.getD d.disabled,
      c.severities.getD d.severities, c.suffixes.getD d.suffixes, c.policy.getD d.policy,
      c.prefixes.getD d.prefixes, c.ignore.getD d.ignore, c.jobs.getD d.jobs⟩

end SchemaLint

/-!
# A configuration to start from

A configuration text with comments, in which all options are as they are by default.
-/

namespace SchemaLint.Options

/-- The lines of the configuration. -/
def sampleLines : List String :=
  [
    "# gqlstyle configuration",
    "#",
    "# Verbs a root mutation field may start with (createUser, deletePost, ...).",
    "allowedMutationVerbs: [create, update, delete, set, track]",
    "",
    "# Field names never reported by FieldRedundantName.",
    "entityNameAllowList: [dateOfBirth]",
    "",
    "# Rules to switch off entirely.",
    "disabledRules: []",
    "",
    "# Per-rule severity: error or warning.",
    "severityOverrides: \x7b\x7d",
    "",
    "# Accepted suffixes for input type names.",
    "inputSuffixes: [Input, Filter, Draft]",
    "",
    "# Boolean field naming: ignore, require (isActive) or forbid (active).",
    "booleanPrefixPolicy: ignore",
    "booleanPrefixes: [is, has, can, should, was]",
    "",
    "# Location suppressions, matched against Type.field.argument paths.",
    "ignore: []",
    "#  - rule: FieldRedundantName",
    "#    at: \"Legacy*.*\"",
    "",
    "# Worker threads used to run the rules.",
    "jobs: 1"]

/-- The configuration. -/
def sample : String := String.join (sampleLines.map (· ++ "\n"))

end SchemaLint.Options

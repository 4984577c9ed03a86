import SchemaLint.Value.Text

/-!
# Faults of a configuration

Why options cannot be read or used.
-/

namespace SchemaLint

/-- The keys of a configuration, in alphabetical order. -/
def optionKeys : List String :=
  ["allowedMutationVerbs", "booleanPrefixPolicy", "booleanPrefixes", "disabledRules",
    "entityNameAllowList", "ignore", "inputSuffixes", "jobs", "severityOverrides"]

/-- What is wrong with a configuration. -/
inductive OptionsFault where
  | unknownKeys (keys : List String)
  | notStrings (key : String) (got : Value)
  | notSeverities (got : Value)
  | notIgnoreList (got : Value)
  | notIgnoreEntry (got : Value)
  | notWholeNumber (got : Value)
  | unknownPolicy (got : String)
  | tooFewJobs (got : Int)
  | noVerbs
  | noSuffixes
  | unknownSeverity (got : String)
  | badAssignment (got : String)
  | unknownRule (rule setting : String)
  | unreadable (reason : String)
  | malformed (problem : String)
  | notMap
  | unwritten (fault : WriteFault)

/-- The wording of the reason for which a value cannot be written. -/
def WriteFault.message : WriteFault → String
  | number => NumberFault.unwritable.message
  | tooDeep => "maximum recursion depth exceeded"

namespace OptionsFault

/-- The wording of a fault. -/
def message : OptionsFault → String
  | unknownKeys keys => "Unknown configuration key(s): " ++ ", ".intercalate keys
  | notStrings key got => s!"'{key}' must be a list of strings, got {got.shown}"
  | notSeverities got => s!"'severityOverrides' must map rule ids to severities, got {got.shown}"
  | notIgnoreList got => s!"'ignore' must be a list, got {got.shown}"
  | notIgnoreEntry got => s!"'ignore' entries need an 'at' pattern, got {got.shown}"
  | notWholeNumber got => s!"'jobs' must be an integer, got {got.shown}"
  | unknownPolicy got =>
    s!"booleanPrefixPolicy must be one of ignore, require, forbid, got {Text.quoted got}"
  | tooFewJobs got => s!"jobs must be at least 1, got {got}"
  | noVerbs => "allowedMutationVerbs must not be empty"
  | noSuffixes => "inputSuffixes must not be empty"
  | unknownSeverity got =>
    s!"unknown severity {Text.quoted got} (expected 'error' or 'warning')"
  | badAssignment got => s!"Invalid severity override {Text.quoted got}"
  | unknownRule rule setting => s!"Unknown rule '{rule}' in {setting}"
  | unreadable reason => s!"Cannot read configuration file: {reason}"
  | malformed problem => s!"Malformed YAML: {problem}"
  | notMap => "Configuration must be a mapping at the top level"
  | unwritten fault => fault.message

/-- Why a fault cannot be told, if what there is instead of what should be cannot be written. -/
def writeFault? (room : Nat) : OptionsFault → Option WriteFault
  | notStrings _ got | notSeverities got | notIgnoreList got | notIgnoreEntry got
  | notWholeNumber got => got.writeFault? room
  | tooFewJobs got => (Value.int got).writeFault? room
  | unwritten fault => some fault
  | _ => none

/-- The code of a fault: one for rules that do not exist, one for the file itself and one for its
content. -/
def code : OptionsFault → String
  | unknownRule .. => "GQL-3001"
  | unreadable _ | malformed _ | notMap => "GQL-3002"
  | _ => "GQL-3000"

/-- The advice that goes with a fault, if any. -/
def hint : OptionsFault → String
  | unknownKeys _ => "Valid keys: " ++ ", ".intercalate optionKeys
  | badAssignment _ => "Use RULE=error or RULE=warning"
  | _ => ""

end OptionsFault
end SchemaLint

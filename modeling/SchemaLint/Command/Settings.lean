import SchemaLint.Command.Color
import SchemaLint.Options.Basic
import SchemaLint.Report.Format

/-!
# Settings

What the commands of the program can be told.
-/

namespace SchemaLint

/-- What a check can be told: the schema, where the report goes and in which format, the configuration
file, whether to colour text, whether to be quiet, and changes to the options. -/
structure CheckSettings where
  schema : String
  output : Option String
  format : Format
  configuration : Option String
  color : ColorMode
  quiet : Bool
  disabled : List String
  severities : List String
  verbs : List String
  allowed : List String
  policy : Option PrefixPolicy
  jobs : Option Int

/-- The settings of a check about which nothing is said. -/
def CheckSettings.default : CheckSettings :=
  ⟨"", none, .text, none, .auto, false, [], [], [], [], none, none⟩

/-- What the list of rules can be told: whether it is to be JSON, and where it goes. -/
structure RulesSettings where
  json : Bool
  output : Option String

/-- What the writing of a configuration can be told: where it goes, and whether it may replace a
file. -/
structure InitSettings where
  output : Option String
  force : Bool

/-- A command with its settings. -/
inductive Command where
  | check (s : CheckSettings)
  | rules (s : RulesSettings)
  | init (s : InitSettings)

/-- What the program can be told: how much to tell, and a command. -/
structure Settings where
  verbosity : Nat
  command : Option Command

end SchemaLint

import SchemaLint.Command.Configuration
import SchemaLint.Command.Output
import SchemaLint.Command.Settings
import SchemaLint.Command.Source

/-!
# The check of a schema

A check reads its options and the schema, lints the schema, writes the report, and ends with a line
that sums the report up. Its exit code is that of the verdict, or 2 if a problem keeps it from a
report.
-/

namespace SchemaLint

namespace CheckSettings

/-- The severities of some rules with the assignments of a user, of which later ones count. -/
def assign (severities : NameMap Severity) :
    List String → Except OptionsFault (NameMap Severity)
  | [] => .ok severities
  | text :: rest => do
    let (rule, severity) ← Severity.readAssignment text
    assign (severities.insert rule severity) rest

/-- The options with the changes that a user asks for. -/
def adjust (c : CheckSettings) (o : Options) : Except OptionsFault Options := do
  let severities ← assign o.severities c.severities
  o.merge
    { disabled := some (NameSet.add o.disabled c.disabled), severities := some severities,
      verbs := some (NameSet.add o.verbs c.verbs),
      allowed := some (NameSet.add o.allowed c.allowed),
      policy := c.policy.map (·.text), jobs := c.jobs }

end CheckSettings

namespace Session

/-- The variable of the environment that names a template for pages. -/
def templateVariable : String := "GQLSTYLE_HTML_TEMPLATE"

variable {m : Type → Type} [Monad m] (s : Session m)

/-- The template for pages: the one that is named, else the one that the environment names if it is a
file. -/
def pageTemplate (named : Option String) : ExceptT Failure m (Option String) := do
  match named.filter (· ≠ "") with
  | some path => return some (← s.readText (.ofText path))
  | none =>
    match (← s.host.environment templateVariable).filter (· ≠ "") with
    | none => return none
    | some path =>
      let path := Path.ofText path
      if (← s.kind? path) = some .file then return some (← s.readText path) else return none

/-- The options of a check. -/
def checkOptions (c : CheckSettings) : ExceptT Failure m Options := do
  let named := (c.configuration.filter (· ≠ "")).map fun path => (Path.ofText path).text
  let options ← s.loadOptions named
  match c.adjust options with
  | .error fault => throw (.ofOptions s.host.resources.room fault)
  | .ok options =>
    let shown := Value.map options.toEntries
    match shown.writeFault? s.host.resources.room with
    | none => s.tell (.ofProgram .debug s!"effective options: {shown.shown}")
    | some fault => s.tellUnwritten .debug fault
    return options

/-- The report of a check. -/
def examine (c : CheckSettings) : ExceptT Failure m Report := do
  let linter := Linter.standard (← s.checkOptions c)
  let resources := s.host.resources
  let (text, source) ← s.takeSchema c.schema
  let (report, seconds) ← risk (s.host.timed fun _ => resources.lint linter text source)
  if 0 < s.verbosity then
    s.tellAll (linter.events (resources.document text source).toOption source seconds)
  report

/-- The text of the report for an output. -/
def rendering (c : CheckSettings) (report : Report) (output : Output) :
    ExceptT Failure m String := do
  match c.format with
  | .html =>
    match ← s.pageTemplate none with
    | none => return report.page
    | some template => s.host.resources.page template report
  | .text =>
    let color ← if output = .stream then s.isColored c.color .out else pure false
    return report.render .text color none
  | format => return report.render format false none

/-- Writes the report of a check. -/
def deliver (c : CheckSettings) (report : Report) : ExceptT Failure m Unit := do
  let output ← s.openOutput c.output
  s.put output (← s.rendering c report output)

/-- Ends a check whose report has been written, with the line that sums the report up. -/
def conclude (c : CheckSettings) (report : Report) (color : Bool) : ExceptT Failure m Unit := do
  if !c.quiet then s.say (report.closingLine color ++ "\n")
  s.tell (.ofProgram .info s!"verdict: {report.verdict.text}")

/-- The text with its first line in red. -/
def redFirstLine (text : String) : String :=
  let rest := (text.toList.dropWhile (· ≠ '\n')).drop 1
  Text.Ansi.bold .red (String.ofList (text.toList.takeWhile (· ≠ '\n'))) ++
    if rest.isEmpty then "" else "\n" ++ String.ofList rest

/-- Ends a check without a report. -/
def giveUp (color : Bool) : Failure → ExceptT Failure m Nat
  | .problem p => do
    s.say ((if color then redFirstLine p.text else p.text) ++ "\n")
    return 2
  | failure => throw failure

/-- Checks a schema. -/
def check (c : CheckSettings) : ExceptT Failure m Nat := do
  let color ← s.isColored c.color .err
  match ← outcome (s.examine c) with
  | .error failure => s.giveUp color failure
  | .ok report =>
    s.deliver c report
    s.conclude c report color
    return report.verdict.exitCode

end Session
end SchemaLint

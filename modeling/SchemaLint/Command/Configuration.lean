import SchemaLint.Command.Session

/-!
# Configuration files

Options are read from a file that the user names, else from one that the environment names, else from
one of two files in the current folder if there is one. Without any of them the options are those by
default.
-/

namespace SchemaLint.Session

/-- The variable of the environment that names a configuration file. -/
def configurationVariable : String := "GQLSTYLE_CONFIG"

/-- The configuration files of a folder; the first that is there counts. -/
def configurationNames : List String := [".gqlstyle.yml", ".gqlstyle.yaml"]

variable {m : Type → Type} [Monad m] (s : Session m)

/-- The first path that leads to a file. -/
def firstFile : List Path → ExceptT Failure m (Option Path)
  | [] => return none
  | p :: rest => do
    if (← s.kind? p) = some .file then return some p else firstFile rest

/-- The configuration file of the current folder. -/
def findInFolder : ExceptT Failure m (Option Path) := do
  let here ← s.here
  s.firstFile (configurationNames.map here.entry)

/-- The configuration file to use if the user names none. A file that the environment names need not be
there. -/
def findConfiguration : ExceptT Failure m (Option Path) := do
  match (← s.host.environment configurationVariable).filter (· ≠ "") with
  | some named => return some (← s.expandHome (.ofText named))
  | none => s.findInFolder

/-- What it means that a configuration file cannot be read. -/
def unreadableConfiguration (path : String) : Failure → Failure
  | .file fault _ => .problem (.ofOptions (.unreadable fault.reason) (.ofSource path))
  | failure => failure

/-- The options of a configuration file. -/
def readOptions (path : String) : ExceptT Failure m Options := do
  let text ← (s.readText (.ofText path)).adapt (unreadableConfiguration path)
  s.tell (.ofPart .info "config" s!"loading configuration from {path}")
  s.host.resources.options text path

/-- The options of the configuration file that the user names, or of the one to use otherwise. -/
def loadOptions (named : Option String) : ExceptT Failure m Options := do
  match named with
  | some path => s.readOptions path
  | none =>
    match ← s.findConfiguration with
    | some path => s.readOptions path.text
    | none =>
      s.tell (.ofPart .debug "config" "no configuration file found; using defaults")
      return .default

end SchemaLint.Session

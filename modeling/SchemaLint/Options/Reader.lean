import SchemaLint.Options.Mapping
import SchemaLint.Yaml.Reader

/-!
# Options of configuration texts

A configuration is a YAML text. An empty one, or null, leaves all options as they are by default.
-/

namespace SchemaLint.Options

/-- The failure that a text is not YAML. -/
def malformed (source : String) (f : Yaml.Fault) : Failure :=
  match f.cause with
  | .number fault => .number fault
  | .tooDeep => .tooDeep
  | cause =>
    let span :=
      match f.mark with
      | some mark => ⟨source, mark.line + 1, mark.column + 1⟩
      | none => Span.ofSource source
    .problem (.ofOptions (.malformed cause.message) span)

/-- The options that a configuration text describes, of which its reader has made a value or has found
a fault. -/
def ofRead (source : String) (room : Nat) : Except Yaml.Fault Value → Except Failure Options
  | .error f => .error (malformed source f)
  | .ok v =>
    match v.opened with
    | .null => .ok .default
    | .map entries => ofEntries entries source room
    | _ => .error (.ofOptions room .notMap (.ofSource source))

/-- The options that a configuration text describes. -/
def ofText (text source : String) : Except Failure Options :=
  ofRead source Value.defaultRoom (Yaml.read text)

end SchemaLint.Options

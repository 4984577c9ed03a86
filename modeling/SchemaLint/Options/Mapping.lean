import SchemaLint.Failure
import SchemaLint.Options.Basic

/-!
# Options as configuration values

A configuration is a map of nine keys, each of which may be left out or null. A list of texts may be
written as a single text; texts are trimmed and empty ones dropped. Options are written as a map of
all nine keys, in which names are in alphabetical order.
-/

namespace SchemaLint

namespace Severity

/-- The severity that a configuration names. -/
def read (s : String) : Except OptionsFault Severity :=
  match ofText? s with
  | some severity => .ok severity
  | none => .error (.unknownSeverity s)

/-- The rule and the severity that a text of the form `RULE=LEVEL` assigns to each other. -/
def readAssignment (s : String) : Except OptionsFault (String × Severity) :=
  let cs := s.toList
  let rule := Unicode.trim (String.ofList (cs.takeWhile (· ≠ '=')))
  match cs.dropWhile (· ≠ '=') with
  | [] => .error (.badAssignment s)
  | _ :: level =>
    if rule = "" then .error (.badAssignment s)
    else (read (String.ofList level)).map (rule, ·)

end Severity

namespace OptionsDraft

section
variable (room : Nat)

/-- The value as a text, for which it may have to be written. -/
def readText : Value → Except OptionsFault String
  | .str s => .ok s
  | v =>
    match v.writeFault? room with
    | none => .ok v.plain
    | some fault => .error (.unwritten fault)

/-- The texts under a key. -/
def readStrings (key : String) (v : Value) : Except OptionsFault (List String) :=
  let texts :=
    match v.opened with
    | .str s => some [s]
    | .list items => Value.strs? items
    | _ => none
  match texts with
  | some ss => .ok ((ss.map Unicode.trim).filter (· ≠ ""))
  | none => .error (.notStrings key v)

/-- The severities of some rules, in order. -/
def readSeverityEntries : List (Value × Value) → Except OptionsFault (List (String × Severity))
  | [] => .ok []
  | (rule, level) :: rest => do
    let rule ← readText room rule
    let severity ← Severity.read (← readText room level)
    return (rule, severity) :: (← readSeverityEntries rest)

/-- The severities of rules. -/
def readSeverities (v : Value) : Except OptionsFault (NameMap Severity) :=
  match v.opened with
  | .map entries => (readSeverityEntries room entries).map .ofList
  | _ => .error (.notSeverities v)

/-- An entry of the list of what is ignored: a pattern, or a map with a pattern and, if not all rules
are meant, a rule. -/
def readIgnoreEntry (v : Value) : Except OptionsFault IgnoreEntry :=
  match v.opened with
  | .str s => .ok ⟨"*", s⟩
  | .map entries =>
    match Value.lookup? "at" entries with
    | some pattern => do
      let rule ← readText room ((Value.lookup? "rule" entries).getD (.str "*"))
      return ⟨rule, ← readText room pattern⟩
    | none => .error (.notIgnoreEntry v)
  | _ => .error (.notIgnoreEntry v)

/-- The list of what is ignored. -/
def readIgnore (v : Value) : Except OptionsFault (List IgnoreEntry) :=
  match v.opened with
  | .list items => items.mapM (readIgnoreEntry room)
  | _ => .error (.notIgnoreList v)

/-- The draft with the value of a key put in. -/
def set (d : OptionsDraft) (key : String) (v : Value) : Except OptionsFault OptionsDraft :=
  match key with
  | "allowedMutationVerbs" => do
    return { d with verbs := .ofNames (← readStrings key v) }
  | "entityNameAllowList" => do
    return { d with allowed := .ofNames (← readStrings key v) }
  | "disabledRules" => do
    return { d with disabled := .ofNames (← readStrings key v) }
  | "severityOverrides" => do
    return { d with severities := ← readSeverities room v }
  | "inputSuffixes" => do
    return { d with suffixes := ← readStrings key v }
  | "booleanPrefixPolicy" => do
    return { d with policy := ← readText room v }
  | "booleanPrefixes" => do
    return { d with prefixes := ← readStrings key v }
  | "ignore" => do
    return { d with ignore := ← readIgnore room v }
  | "jobs" =>
    match v with
    | .int n => return { d with jobs := n }
    | _ => throw (.notWholeNumber v)
  | _ => return d

/-- The draft with the entries of a configuration put in, one after the other. -/
def setAll (d : OptionsDraft) : List (Value × Value) → Except OptionsFault OptionsDraft
  | [] => .ok d
  | (.str _, .null) :: rest => setAll d rest
  | (.str key, v) :: rest => do setAll (← set room d key v) rest
  | _ :: rest => setAll d rest

end

end OptionsDraft

/-- The key is one of a configuration. -/
def isOptionKey : Value → Bool
  | .str key => optionKeys.contains key
  | _ => false

namespace Options

/-- The options that the entries of a configuration describe. Unknown keys count before any other
fault. There is room for so many values within each other when one is written. -/
def ofEntries (entries : List (Value × Value)) (source : String)
    (room : Nat := Value.defaultRoom) : Except Failure Options :=
  let unknown := (entries.map (·.1)).filter (!isOptionKey ·)
  let fail (f : OptionsFault) : Except Failure Options :=
    .error (.ofOptions room f (.ofSource source))
  if unknown.isEmpty then
    match OptionsDraft.default.setAll room entries with
    | .error f => fail f
    | .ok draft =>
      match draft.check with
      | .error f => fail f
      | .ok options => .ok options
  else
    match Value.strs? unknown with
    | some keys => fail (.unknownKeys (keys.mergeSort (· ≤ ·)))
    | none => .error (.textlessKeys unknown)

/-- The entries of the configuration that describes the options. -/
def toEntries (o : Options) : List (Value × Value) :=
  [ (.str "allowedMutationVerbs", .strings o.verbs.names),
    (.str "entityNameAllowList", .strings o.allowed.names),
    (.str "disabledRules", .strings o.disabled.names),
    (.str "severityOverrides",
      .map (o.severities.entries.map fun e => (.str e.1, .str e.2.label))),
    (.str "inputSuffixes", .strings o.suffixes),
    (.str "booleanPrefixPolicy", .str o.policy.text),
    (.str "booleanPrefixes", .strings o.prefixes),
    (.str "ignore",
      .list (o.ignore.map fun e =>
        .map [(.str "rule", .str e.rule), (.str "at", .str e.pattern)])),
    (.str "jobs", .int o.jobs) ]

end Options
end SchemaLint

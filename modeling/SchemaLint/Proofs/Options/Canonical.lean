import Mathlib
import SchemaLint.Options.Mapping
import SchemaLint.Proofs.NameMap
import SchemaLint.Proofs.Outcome

/-!
# The configuration that describes options

Options that were read of a configuration are written as a configuration of all nine keys, which
reads as the same options: `Options.ofEntries_toEntries`. So there is one such configuration for the
options of all configurations that read alike.

What is written is read back as it is since lists of texts were trimmed when they were read.
-/

namespace SchemaLint

/-! ## Trimmed texts -/

namespace Unicode

/-- Nothing is dropped from the front of a text of which nothing is dropped. -/
lemma dropWhile_eq_self_of_prefix {p : Char → Bool} {cs ds : List Char} (front : ds <+: cs)
    (kept : cs.dropWhile p = cs) : ds.dropWhile p = ds := by
  cases ds with
  | nil => rfl
  | cons d ds =>
    obtain ⟨more, rfl⟩ := front
    rw [List.dropWhile_eq_self_iff] at kept ⊢
    exact fun _ => kept (by simp)

/-- Trimming leaves nothing to trim. -/
lemma trim_trim (s : String) : trim (trim s) = trim s := by
  have front : (((s.toList.dropWhile isBlank).reverse.dropWhile isBlank).reverse).dropWhile isBlank =
      ((s.toList.dropWhile isBlank).reverse.dropWhile isBlank).reverse := by
    have kept := List.dropWhile_idempotent (p := isBlank) s.toList
    exact dropWhile_eq_self_of_prefix (List.rdropWhile_prefix isBlank _) kept
  rw [trim, trim, String.toList_ofList, front, List.reverse_reverse, List.dropWhile_idempotent]

end Unicode

/-- A text as it is in a list of texts that was read: trimmed and not empty. -/
def IsTrimmed (s : String) : Prop := Unicode.trim s = s ∧ s ≠ ""

instance : DecidablePred IsTrimmed := fun s =>
  inferInstanceAs (Decidable (Unicode.trim s = s ∧ s ≠ ""))

namespace OptionsDraft

/-- All lists of texts in the draft are as they are read. -/
structure Trimmed (d : OptionsDraft) : Prop where
  verbs : ∀ s ∈ d.verbs.names, IsTrimmed s
  allowed : ∀ s ∈ d.allowed.names, IsTrimmed s
  disabled : ∀ s ∈ d.disabled.names, IsTrimmed s
  suffixes : ∀ s ∈ d.suffixes, IsTrimmed s
  prefixes : ∀ s ∈ d.prefixes, IsTrimmed s

/-! ## Reading keeps texts trimmed -/

variable {room : Nat} {d d' : OptionsDraft} {key : String} {v : Value} {ss : List String}

/-- Texts that are read have no blanks around them. -/
lemma isTrimmed_of_mem_readStrings (read : readStrings key v = .ok ss) :
    ∀ s ∈ ss, IsTrimmed s := by
  rw [readStrings] at read
  split at read
  · cases read
    intro s mem
    rw [List.mem_filter, List.mem_map] at mem
    obtain ⟨⟨t, -, rfl⟩, ne⟩ := mem
    exact ⟨Unicode.trim_trim t, of_decide_eq_true ne⟩
  · cases read

/-- Nor have the names of a set of such texts. -/
lemma isTrimmed_of_mem_ofNames (trimmed : ∀ s ∈ ss, IsTrimmed s) :
    ∀ s ∈ (NameSet.ofNames ss).names, IsTrimmed s :=
  fun s mem => trimmed s (NameSet.mem_names_ofNames.1 mem)

/-- Nor have the texts of the default. -/
lemma trimmed_default : default.Trimmed := by
  constructor <;> decide +kernel

/-- The value of one key leaves the draft trimmed. -/
lemma Trimmed.set (trimmed : d.Trimmed) (read : d.set room key v = .ok d') : d'.Trimmed := by
  unfold OptionsDraft.set at read
  split at read
  -- sets of names
  · obtain ⟨ss, strings, ⟨⟩⟩ := bind_eq_ok_iff.1 read
    have names := isTrimmed_of_mem_ofNames (isTrimmed_of_mem_readStrings strings)
    exact { trimmed with verbs := names }
  · obtain ⟨ss, strings, ⟨⟩⟩ := bind_eq_ok_iff.1 read
    have names := isTrimmed_of_mem_ofNames (isTrimmed_of_mem_readStrings strings)
    exact { trimmed with allowed := names }
  · obtain ⟨ss, strings, ⟨⟩⟩ := bind_eq_ok_iff.1 read
    have names := isTrimmed_of_mem_ofNames (isTrimmed_of_mem_readStrings strings)
    exact { trimmed with disabled := names }
  · obtain ⟨severities, -, ⟨⟩⟩ := bind_eq_ok_iff.1 read
    exact { trimmed with }
  -- lists of texts
  · obtain ⟨ss, strings, ⟨⟩⟩ := bind_eq_ok_iff.1 read
    exact { trimmed with suffixes := isTrimmed_of_mem_readStrings strings }
  · obtain ⟨policy, -, ⟨⟩⟩ := bind_eq_ok_iff.1 read
    exact { trimmed with }
  · obtain ⟨ss, strings, ⟨⟩⟩ := bind_eq_ok_iff.1 read
    exact { trimmed with prefixes := isTrimmed_of_mem_readStrings strings }
  · obtain ⟨ignore, -, ⟨⟩⟩ := bind_eq_ok_iff.1 read
    exact { trimmed with }
  · split at read
    · cases read
      exact { trimmed with }
    · cases read
  -- no key of a configuration
  · cases read
    exact trimmed

/-- A whole configuration leaves the draft trimmed. -/
lemma Trimmed.setAll {entries : List (Value × Value)} (trimmed : d.Trimmed)
    (read : d.setAll room entries = .ok d') : d'.Trimmed := by
  induction d, entries using OptionsDraft.setAll.induct with
  | case1 d =>
    cases read
    exact trimmed
  | case2 d key rest ih => exact ih trimmed read
  | case3 d key v rest not_null ih =>
    rw [OptionsDraft.setAll] at read
    · obtain ⟨next, set, read⟩ := bind_eq_ok_iff.1 read
      exact ih next (trimmed.set set) read
    · exact not_null
  | case4 d entry rest no_text no_text' ih =>
    rw [OptionsDraft.setAll] at read
    · exact ih trimmed read
    · exact no_text
    · exact no_text'

/-! ## Reading what is written -/

/-- Values that are made of texts are read as these texts. -/
lemma strs?_map_str (ss : List String) : Value.strs? (ss.map .str) = some ss := by
  induction ss with
  | nil => rfl
  | cons s ss ih => rw [List.map_cons, Value.strs?, ih, Option.map_some]

/-- Trimmed texts are read as they are written. -/
lemma readStrings_strings (key : String) (trimmed : ∀ s ∈ ss, IsTrimmed s) :
    readStrings key (.strings ss) = .ok ss := by
  have same : ss.map Unicode.trim = ss :=
    (List.map_congr_left fun s mem => (trimmed s mem).1).trans (List.map_id ss)
  have none_empty : ss.filter (· ≠ "") = ss :=
    List.filter_eq_self.2 fun s mem => decide_eq_true (trimmed s mem).2
  have opened : (Value.strings ss).opened = .list (ss.map .str) := rfl
  rw [readStrings, opened]
  dsimp only
  rw [strs?_map_str]
  dsimp only
  rw [same, none_empty]

/-- Severities that are written are read back, by induction on them. -/
lemma readSeverityEntries_written (entries : List (String × Severity)) :
    readSeverityEntries room (entries.map fun e => (.str e.1, .str e.2.label)) = .ok entries := by
  have label (severity : Severity) : Severity.read severity.label = .ok severity := by
    have named : Severity.ofText? severity.label = some severity := by
      cases severity <;> decide +kernel
    rw [Severity.read, named]
  induction entries with
  | nil => rfl
  | cons e entries ih =>
    rw [List.map_cons, readSeverityEntries]
    exact bind_eq_ok_iff.2 ⟨e.1, rfl, bind_eq_ok_iff.2 ⟨e.2.label, rfl,
      bind_eq_ok_iff.2 ⟨e.2, label e.2, bind_eq_ok_iff.2 ⟨entries, ih, rfl⟩⟩⟩⟩

/-- A map of severities that is written is read back. -/
lemma readSeverities_written (severities : NameMap Severity) :
    readSeverities room (.map (severities.entries.map fun e => (.str e.1, .str e.2.label))) =
      .ok severities := by
  have entries : readSeverityEntries room _ = .ok _ :=
    readSeverityEntries_written severities.entries
  exact map_eq_ok_iff.2 ⟨severities.entries, entries, severities.ofList_entries⟩

/-- A list of what is ignored that is written is read back. -/
lemma readIgnore_written (ignore : List IgnoreEntry) :
    readIgnore room (.list (ignore.map fun e =>
      .map [(.str "rule", .str e.rule), (.str "at", .str e.pattern)])) = .ok ignore := by
  show (ignore.map fun e : IgnoreEntry =>
    Value.map [(.str "rule", .str e.rule), (.str "at", .str e.pattern)]).mapM (readIgnoreEntry room) = _
  induction ignore with
  | nil => rfl
  | cons e ignore ih =>
    have entry : readIgnoreEntry room
        (.map [(.str "rule", .str e.rule), (.str "at", .str e.pattern)]) = .ok e := rfl
    rw [List.map_cons, List.mapM_cons, entry, ih]
    rfl

/-- An entry that is read is followed by the others. -/
lemma setAll_cons {entries : List (Value × Value)} (read : d.set room key v = .ok d')
    (given : v ≠ .null) : d.setAll room ((.str key, v) :: entries) = d'.setAll room entries := by
  rw [OptionsDraft.setAll, read]
  · rfl
  · exact given

section
variable (key) (f : NameSet → OptionsDraft) (g : List String → OptionsDraft)

/-- A set of names that is written is read back. -/
lemma readNames_written {names : NameSet} (trimmed : ∀ s ∈ names.names, IsTrimmed s) :
    (do return f (.ofNames (← readStrings key (.strings names.names)))) =
      (.ok (f names) : Except OptionsFault OptionsDraft) := by
  rw [readStrings_strings key trimmed]
  exact congrArg (Except.ok ∘ f) names.ofNames_names

/-- A list of texts that is written is read back. -/
lemma readTexts_written (trimmed : ∀ s ∈ ss, IsTrimmed s) :
    (do return g (← readStrings key (.strings ss))) =
      (.ok (g ss) : Except OptionsFault OptionsDraft) := by
  rw [readStrings_strings key trimmed]
  rfl

end

/-- All nine keys are written, so nothing is left of the draft that they are put into. -/
lemma setAll_toEntries {o : Options} (trimmed : o.toDraft.Trimmed) :
    d.setAll room o.toEntries = .ok o.toDraft := by
  have verbs (d : OptionsDraft) : d.set room "allowedMutationVerbs" (.strings o.verbs.names) =
      .ok { d with verbs := o.verbs } :=
    readNames_written "allowedMutationVerbs" (fun ss => { d with verbs := ss }) trimmed.verbs
  have allowed (d : OptionsDraft) : d.set room "entityNameAllowList" (.strings o.allowed.names) =
      .ok { d with allowed := o.allowed } :=
    readNames_written "entityNameAllowList" (fun ss => { d with allowed := ss }) trimmed.allowed
  have disabled (d : OptionsDraft) : d.set room "disabledRules" (.strings o.disabled.names) =
      .ok { d with disabled := o.disabled } :=
    readNames_written "disabledRules" (fun ss => { d with disabled := ss }) trimmed.disabled
  have severities (d : OptionsDraft) : d.set room "severityOverrides"
      (.map (o.severities.entries.map fun e => (.str e.1, .str e.2.label))) =
      .ok { d with severities := o.severities } :=
    bind_eq_ok_iff.2 ⟨o.severities, readSeverities_written o.severities, rfl⟩
  have suffixes (d : OptionsDraft) : d.set room "inputSuffixes" (.strings o.suffixes) =
      .ok { d with suffixes := o.suffixes } :=
    readTexts_written "inputSuffixes" (fun ss => { d with suffixes := ss }) trimmed.suffixes
  have policy (d : OptionsDraft) : d.set room "booleanPrefixPolicy" (.str o.policy.text) =
      .ok { d with policy := o.policy.text } := rfl
  have prefixes (d : OptionsDraft) : d.set room "booleanPrefixes" (.strings o.prefixes) =
      .ok { d with prefixes := o.prefixes } :=
    readTexts_written "booleanPrefixes" (fun ss => { d with prefixes := ss }) trimmed.prefixes
  have ignore (d : OptionsDraft) : d.set room "ignore" (.list (o.ignore.map fun e =>
      .map [(.str "rule", .str e.rule), (.str "at", .str e.pattern)])) =
      .ok { d with ignore := o.ignore } :=
    bind_eq_ok_iff.2 ⟨o.ignore, readIgnore_written o.ignore, rfl⟩
  have jobs (d : OptionsDraft) : d.set room "jobs" (.int o.jobs) = .ok { d with jobs := o.jobs } := rfl
  rw [Options.toEntries, setAll_cons (verbs _) nofun, setAll_cons (allowed _) nofun,
    setAll_cons (disabled _) nofun, setAll_cons (severities _) nofun, setAll_cons (suffixes _) nofun,
    setAll_cons (policy _) nofun, setAll_cons (prefixes _) nofun, setAll_cons (ignore _) nofun,
    setAll_cons (jobs _) nofun]
  rfl

/-! ## Options -/

/-- Options are checked without a change. -/
lemma toDraft_of_check {o : Options} (checked : d.check = .ok o) : o.toDraft = d := by
  rw [check] at checked
  split at checked
  · cases checked
  · rename_i policy found
    have text : policy.text = d.policy := by
      rw [PrefixPolicy.ofText?] at found
      simpa using List.find?_some found
    split_ifs at checked with jobs
    cases checked
    rw [Options.toDraft, text, Int.toNat_of_nonneg (by omega)]

end OptionsDraft

namespace Options

variable {entries : List (Value × Value)} {source : String} {room : Nat} {o : Options}

/-- A configuration gives options if it has no unknown keys, its values can be read, and what is
read passes the check. -/
lemma ofEntries_eq_ok_iff :
    ofEntries entries source room = .ok o ↔
      (∀ e ∈ entries, isOptionKey e.1) ∧
      ∃ d, OptionsDraft.default.setAll room entries = .ok d ∧ d.check = .ok o := by
  have unknown : ((entries.map (·.1)).filter (!isOptionKey ·)).isEmpty ↔
      ∀ e ∈ entries, isOptionKey e.1 := by
    simp
  rw [ofEntries, ← unknown]
  dsimp only
  split
  · rename_i known
    rw [and_iff_right known]
    cases read : OptionsDraft.default.setAll room entries with
    | error f => simp
    | ok d =>
      cases checked : d.check with
      | error f => simp [checked]
      | ok o' => simp [checked]
  · rename_i some_unknown
    refine iff_of_false (fun eq => ?_) fun accepted => some_unknown accepted.1
    split at eq <;> cases eq

/-- The options of a configuration are written as one that reads as the same options, and so is
written in the same way again. Options that are written alike are the same. None of this depends on the
room that there is for values within values. -/
theorem ofEntries_toEntries (accepted : ofEntries entries source room = .ok o) :
    (∀ source' room', ∃ o', ofEntries o.toEntries source' room' = .ok o' ∧ o' = o ∧
      o'.toEntries = o.toEntries) ∧
    ∀ entries' source' room' o', ofEntries entries' source' room' = .ok o' →
      o'.toEntries = o.toEntries → o' = o := by
  -- what holds of the options of one configuration holds of those of any other
  have reads {entries : List (Value × Value)} {source : String} {room : Nat} {o : Options}
      (accepted : ofEntries entries source room = .ok o) (source' : String) (room' : Nat) :
      ofEntries o.toEntries source' room' = .ok o := by
    obtain ⟨-, d, read, checked⟩ := ofEntries_eq_ok_iff.1 accepted
    have draft : o.toDraft = d := OptionsDraft.toDraft_of_check checked
    have trimmed : o.toDraft.Trimmed := draft ▸ OptionsDraft.trimmed_default.setAll read
    refine ofEntries_eq_ok_iff.2 ⟨?_, o.toDraft, OptionsDraft.setAll_toEntries trimmed, ?_⟩
    · simp [toEntries, isOptionKey, optionKeys]
    · rw [draft, checked]
  refine ⟨fun source' room' => ⟨o, reads accepted source' room', rfl, rfl⟩, ?_⟩
  intro entries' source' room' o' accepted' same
  have back : ofEntries o'.toEntries source' room' = .ok o' := reads accepted' source' room'
  rw [same, reads accepted source' room'] at back
  exact (Except.ok.inj back).symm

/-- A configuration with a single text for a list, blanks, an empty text, another word for a
severity, and both forms of what is ignored. -/
def loose : List (Value × Value) := [
  (.str "disabledRules", .str " TypeSingular "),
  (.str "jobs", .null),
  (.str "inputSuffixes", .list [.str "Input ", .str "  "]),
  (.str "severityOverrides", .map [
    (.str "TypeCasing", .str "error"),
    (.str "FieldCasing", .str "Warn ")]),
  (.str "ignore", .list [
    .str "Legacy*",
    .map [(.str "at", .str "*.id"), (.str "rule", .str "FieldCasing")]])]

/-- The options of `loose`. -/
def ofLoose : Options :=
  { Options.default with
    disabled := .ofNames ["TypeSingular"]
    suffixes := ["Input"]
    severities := .ofList [("FieldCasing", .warning), ("TypeCasing", .error)]
    ignore := [⟨"*", "Legacy*"⟩, ⟨"FieldCasing", "*.id"⟩]
    suffixes_ne := by decide }

/-- The options of `loose` are written as a configuration that reads as the same options. -/
theorem ofEntries_toEntries_loose :
    ofEntries loose ".gqlstyle.yml" = .ok ofLoose ∧
    (∀ source' room', ∃ o', ofEntries ofLoose.toEntries source' room' = .ok o' ∧ o' = ofLoose ∧
      o'.toEntries = ofLoose.toEntries) ∧
    ∀ entries' source' room' o', ofEntries entries' source' room' = .ok o' →
      o'.toEntries = ofLoose.toEntries → o' = ofLoose := by
  have accepted : ofEntries loose ".gqlstyle.yml" = .ok ofLoose :=
    toOption_eq_some_iff.1 (by decide +kernel)
  exact ⟨accepted, ofEntries_toEntries accepted⟩

end Options

end SchemaLint

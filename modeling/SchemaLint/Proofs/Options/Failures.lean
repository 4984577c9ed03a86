import Mathlib
import SchemaLint.Options.Reader
import SchemaLint.Proofs.Outcome

/-!
# Failures of configurations

A configuration whose keys are texts, and whose values can be written, gives options or is refused by a
problem of the configuration: `Options.failure_of_ofEntries`. Of the other failures there are two, one
for each of these conditions.

A value is written when a fault tells it, or when it stands where a text should. So each reader is
followed on its way into the configuration: a fault that cannot be told is due to a value that occurs
there (`Tells`).
-/

namespace SchemaLint

variable {entries : List (Value × Value)} {room : Nat}

/-- The value occurs in the entries: it is a key, it stands under one, or it is in a list or a map that
occurs. Loops go on for ever, and so all that is in them occurs over and over again. -/
inductive Value.OccursIn (entries : List (Value × Value)) : Value → Prop
  | key {e : Value × Value} : e ∈ entries → OccursIn entries e.1
  | value {e : Value × Value} : e ∈ entries → OccursIn entries e.2
  | item {v w : Value} {items : List Value} :
    OccursIn entries v → v.opened = .list items → w ∈ items → OccursIn entries w
  | innerKey {v : Value} {e : Value × Value} {inner : List (Value × Value)} :
    OccursIn entries v → v.opened = .map inner → e ∈ inner → OccursIn entries e.1
  | innerValue {v : Value} {e : Value × Value} {inner : List (Value × Value)} :
    OccursIn entries v → v.opened = .map inner → e ∈ inner → OccursIn entries e.2

/-- What is found under a text key stands in one of the entries. -/
lemma Value.exists_mem_of_lookup? {key : String} {inner : List (Value × Value)} {v : Value}
    (found : lookup? key inner = some v) : ∃ e ∈ inner, e.2 = v := by
  induction inner with
  | nil => cases found
  | cons entry rest ih =>
    unfold lookup? at found
    split at found
    · cases found
    · rename_i heads
      cases heads
      split at found
      · cases found
        exact ⟨_, List.mem_cons_self, rfl⟩
      · obtain ⟨e, mem, eq⟩ := ih found
        exact ⟨e, List.mem_cons_of_mem _ mem, eq⟩
    · rename_i heads
      cases heads
      obtain ⟨e, mem, eq⟩ := ih found
      exact ⟨e, List.mem_cons_of_mem _ mem, eq⟩

/-! ## Faults that can be told -/

/-- If the outcome is a fault that cannot be told, a value that occurs in the entries cannot be
written. -/
def Tells {α : Type} (entries : List (Value × Value)) (room : Nat) (x : Except OptionsFault α) :
    Prop :=
  ∀ f reason, x = .error f → f.writeFault? room = some reason →
    ∃ v, Value.OccursIn entries v ∧ v.writeFault? room = some reason

namespace Tells
variable {α β : Type} {v : Value}

/-- There is nothing to tell of what is no fault. -/
lemma ok (a : α) : Tells entries room (.ok a) := nofun

/-- A fault in which no value is told can always be told. -/
lemma error {f : OptionsFault} (told : f.writeFault? room = none) :
    Tells entries room (.error f : Except OptionsFault α) := by
  rintro _ reason ⟨⟩ untold
  rw [told] at untold
  cases untold

/-- A fault in which a value is told can be told if the value can be written. -/
lemma error_instead {f : OptionsFault} (occurs : v.OccursIn entries)
    (told : f.writeFault? room = v.writeFault? room) :
    Tells entries room (.error f : Except OptionsFault α) := by
  rintro _ reason ⟨⟩ untold
  exact ⟨v, occurs, told ▸ untold⟩

/-- Of two steps, the second of which matters only if the first has been done. -/
lemma bind {x : Except OptionsFault α} {g : α → Except OptionsFault β}
    (first : Tells entries room x) (rest : ∀ a, x = .ok a → Tells entries room (g a)) :
    Tells entries room (x >>= g) := by
  cases x with
  | ok a => exact rest a rfl
  | error f =>
    rintro _ reason ⟨⟩ untold
    exact first f reason rfl untold

/-- What is made of an outcome has the faults of the outcome. -/
lemma map {x : Except OptionsFault α} {g : α → β} (tells : Tells entries room x) :
    Tells entries room (x.map g) := by
  cases x with
  | ok a => exact ok (g a)
  | error f =>
    rintro _ reason ⟨⟩ untold
    exact tells f reason rfl untold

/-- Steps for the members of a list, one after the other. -/
lemma mapM {xs : List α} {g : α → Except OptionsFault β} (each : ∀ x ∈ xs, Tells entries room (g x)) :
    Tells entries room (xs.mapM g) := by
  induction xs with
  | nil => exact ok []
  | cons x rest ih =>
    rw [List.forall_mem_cons] at each
    rw [List.mapM_cons]
    exact each.1.bind fun _ _ => (ih each.2).bind fun _ _ => ok _

end Tells

/-- The name of a severity is a text, which can be told. -/
lemma Severity.tells_read (s : String) : Tells entries room (read s) := by
  unfold read
  split
  · exact Tells.ok _
  · exact Tells.error rfl

namespace OptionsDraft

variable {d : OptionsDraft} {key : String} {v : Value}

/-! ## Readers of values -/

/-- A value that is taken as a text is written. -/
lemma tells_readText (occurs : v.OccursIn entries) : Tells entries room (readText room v) := by
  unfold readText
  split
  · exact Tells.ok _
  · split
    · exact Tells.ok _
    · rename_i reason unwritten
      exact Tells.error_instead occurs unwritten.symm

/-- What stands where texts should is told. -/
lemma tells_readStrings (occurs : v.OccursIn entries) :
    Tells entries room (readStrings key v) := by
  unfold readStrings
  dsimp only
  split
  · exact Tells.ok _
  · exact Tells.error_instead occurs rfl

/-- Rules and their severities are taken as texts. -/
lemma tells_readSeverityEntries {inner : List (Value × Value)}
    (occur : ∀ e ∈ inner, e.1.OccursIn entries ∧ e.2.OccursIn entries) :
    Tells entries room (readSeverityEntries room inner) := by
  induction inner with
  | nil => exact Tells.ok _
  | cons entry rest ih =>
    rw [List.forall_mem_cons] at occur
    refine (tells_readText occur.1.1).bind fun _ _ => ?_
    refine (tells_readText occur.1.2).bind fun _ _ => ?_
    refine (Severity.tells_read _).bind fun _ _ => ?_
    exact (ih occur.2).bind fun _ _ => Tells.ok _

/-- What stands where severities should is told. -/
lemma tells_readSeverities (occurs : v.OccursIn entries) :
    Tells entries room (readSeverities room v) := by
  unfold readSeverities
  split
  · rename_i inner opened
    exact (tells_readSeverityEntries fun e mem =>
      ⟨.innerKey occurs opened mem, .innerValue occurs opened mem⟩).map
  · exact Tells.error_instead occurs rfl

/-- A rule and a pattern are taken as texts. -/
lemma tells_readIgnoreEntry (occurs : v.OccursIn entries) :
    Tells entries room (readIgnoreEntry room v) := by
  unfold readIgnoreEntry
  split
  · exact Tells.ok _
  · rename_i inner opened
    have found {key : String} {w : Value} (found : Value.lookup? key inner = some w) :
        w.OccursIn entries := by
      obtain ⟨e, mem, rfl⟩ := Value.exists_mem_of_lookup? found
      exact .innerValue occurs opened mem
    split
    · rename_i pattern at_eq
      refine Tells.bind ?_ fun _ _ => ?_
      · cases rule : Value.lookup? "rule" inner with
        | none => exact Tells.ok _
        | some w => exact tells_readText (found rule)
      · exact (tells_readText (found at_eq)).bind fun _ _ => Tells.ok _
    · exact Tells.error_instead occurs rfl
  · exact Tells.error_instead occurs rfl

/-- What stands where a list of what is ignored should is told. -/
lemma tells_readIgnore (occurs : v.OccursIn entries) : Tells entries room (readIgnore room v) := by
  unfold readIgnore
  split
  · rename_i items opened
    exact Tells.mapM fun item mem => tells_readIgnoreEntry (.item occurs opened mem)
  · exact Tells.error_instead occurs rfl

/-! ## Drafts -/

/-- What stands under a key is told if it is not what it should be. -/
lemma tells_set (occurs : v.OccursIn entries) : Tells entries room (d.set room key v) := by
  unfold OptionsDraft.set
  split
  · exact (tells_readStrings occurs).bind fun _ _ => Tells.ok _
  · exact (tells_readStrings occurs).bind fun _ _ => Tells.ok _
  · exact (tells_readStrings occurs).bind fun _ _ => Tells.ok _
  · exact (tells_readSeverities occurs).bind fun _ _ => Tells.ok _
  · exact (tells_readStrings occurs).bind fun _ _ => Tells.ok _
  · exact (tells_readText occurs).bind fun _ _ => Tells.ok _
  · exact (tells_readStrings occurs).bind fun _ _ => Tells.ok _
  · exact (tells_readIgnore occurs).bind fun _ _ => Tells.ok _
  · split
    · exact Tells.ok _
    · exact Tells.error_instead occurs rfl
  · exact Tells.ok _

/-- A number of workers that is too small has been read. -/
def JobsOccur (entries : List (Value × Value)) (d : OptionsDraft) : Prop :=
  d.jobs < 1 → (Value.int d.jobs).OccursIn entries

/-- The number of workers stays one that has been read if it is too small. -/
lemma JobsOccur.set {d' : OptionsDraft} (jobs : d.JobsOccur entries) (occurs : v.OccursIn entries)
    (read : d.set room key v = .ok d') : d'.JobsOccur entries := by
  unfold OptionsDraft.set at read
  split at read
  case h_9 =>
    split at read
    · cases read
      exact fun _ => occurs
    · cases read
  case h_10 =>
    cases read
    exact jobs
  -- the other keys set something else
  all_goals
    obtain ⟨_, -, ⟨⟩⟩ := bind_eq_ok_iff.1 read
    exact jobs

/-- The check of a draft tells no value but the number of workers. -/
lemma tells_check (jobs : d.JobsOccur entries) : Tells entries room d.check := by
  unfold check
  split
  · exact Tells.error rfl
  · split
    · rename_i few
      exact Tells.error_instead (jobs few) rfl
    · split
      · exact Tells.error rfl
      · split
        · exact Tells.error rfl
        · exact Tells.ok _

/-- Values that are put into a draft, and the check of it, by induction on the values. -/
lemma tells_setAll_check {inner : List (Value × Value)} (jobs : d.JobsOccur entries)
    (occur : ∀ e ∈ inner, e.2.OccursIn entries) :
    Tells entries room (d.setAll room inner >>= check) := by
  induction d, inner using OptionsDraft.setAll.induct with
  | case1 d => exact tells_check jobs
  | case2 d key rest ih => exact ih jobs (List.forall_mem_cons.1 occur).2
  | case3 d key v rest not_null ih =>
    obtain ⟨occurs, occur⟩ := List.forall_mem_cons.1 occur
    rw [OptionsDraft.setAll, bind_assoc]
    · refine (tells_set occurs).bind fun next set => ?_
      exact ih next (jobs.set occurs set) occur
    · exact not_null
  | case4 d entry rest no_text no_text' ih =>
    rw [OptionsDraft.setAll]
    · exact ih jobs (List.forall_mem_cons.1 occur).2
    · exact no_text
    · exact no_text'

end OptionsDraft

/-! ## Failures -/

namespace Failure

/-- The failure is a problem. -/
def IsProblem (f : Failure) : Prop := ∃ p, f = .problem p

/-- The failure is a problem of the configuration. -/
def IsOfOptions (f : Failure) : Prop := ∃ p, f = .problem p ∧ p.cause.family = .options

/-- A fault that can be told is a problem of the configuration. -/
lemma isOfOptions_ofOptions {fault : OptionsFault} {span : Span}
    (told : fault.writeFault? room = none) : (ofOptions room fault span).IsOfOptions := by
  rw [ofOptions, told]
  exact ⟨_, rfl, rfl⟩

end Failure

namespace Options

variable {source : String} {failure : Failure}

/-- A key of the entries is no text. -/
def HasTextlessKey (entries : List (Value × Value)) : Prop := ∃ e ∈ entries, e.1.str? = none

/-- The failures, apart from problems, that come of entries: a key is no text, or a value that occurs in
them cannot be written. -/
inductive Escapes (entries : List (Value × Value)) (room : Nat) : Failure → Prop
  | textless {keys : List Value} : HasTextlessKey entries → Escapes entries room (.textlessKeys keys)
  | unwritten {v : Value} {reason : WriteFault} :
    v.OccursIn entries → v.writeFault? room = some reason →
    Escapes entries room (.ofWriteFault reason)

/-- What entries let through is no problem. -/
lemma Escapes.not_isProblem (escapes : Escapes entries room failure) : ¬ failure.IsProblem := by
  rintro ⟨problem, rfl⟩
  generalize problem_eq : Failure.problem problem = failure at escapes
  cases escapes with
  | textless _ => cases problem_eq
  | @unwritten _ reason _ _ =>
    cases reason with
    | number => cases problem_eq
    | tooDeep => cases problem_eq

/-- The texts of a list are missing if one of its members is no text. -/
lemma strs?_eq_none_iff {vs : List Value} :
    Value.strs? vs = none ↔ ∃ v ∈ vs, v.str? = none := by
  induction vs with
  | nil => simp [Value.strs?]
  | cons v rest ih =>
    rw [List.exists_mem_cons_iff, ← ih]
    cases v <;> simp [Value.strs?, Value.str?]

/-- A key that is no text is none of a configuration. -/
lemma isOptionKey_of_textless {v : Value} (textless : v.str? = none) : isOptionKey v = false := by
  cases v with
  | str s => cases textless
  | _ => rfl

/-- A key that is no text is among the unknown ones, which are then not all texts. -/
lemma hasTextlessKey_iff :
    HasTextlessKey entries ↔ Value.strs? ((entries.map (·.1)).filter (!isOptionKey ·)) = none := by
  rw [strs?_eq_none_iff]
  constructor
  · rintro ⟨e, mem, textless⟩
    refine ⟨e.1, List.mem_filter.2 ⟨List.mem_map_of_mem mem, ?_⟩, textless⟩
    rw [isOptionKey_of_textless textless]
    rfl
  · rintro ⟨k, unknown, textless⟩
    obtain ⟨e, mem, rfl⟩ := List.mem_map.1 (List.mem_of_mem_filter unknown)
    exact ⟨e, mem, textless⟩

/-- Entries with a key that is no text are refused because of their keys. -/
lemma ofEntries_of_hasTextlessKey (textless : HasTextlessKey entries) :
    ∃ keys, ofEntries entries source room = .error (.textlessKeys keys) := by
  have none := hasTextlessKey_iff.1 textless
  refine ⟨(entries.map (·.1)).filter (!isOptionKey ·), ?_⟩
  unfold ofEntries
  dsimp only
  rw [none, if_neg]
  intro empty
  rw [List.isEmpty_iff.1 empty] at none
  cases none

/-- If all keys are known, the values are put into a draft, and this is checked. -/
lemma ofEntries_of_known (known : ((entries.map (·.1)).filter (!isOptionKey ·)).isEmpty = true) :
    ofEntries entries source room =
      (OptionsDraft.default.setAll room entries >>= OptionsDraft.check).mapError
        (Failure.ofOptions room · (.ofSource source)) := by
  unfold ofEntries
  dsimp only
  rw [if_pos known]
  cases OptionsDraft.default.setAll room entries with
  | error f => rfl
  | ok draft =>
    cases checked : draft.check with
    | error f => simp [bind, Except.bind, checked, Except.mapError]
    | ok options => simp [bind, Except.bind, checked, Except.mapError]

/-- Entries fail by a problem of the configuration, or in one of two other ways. -/
lemma failure_of_ofEntries (failed : ofEntries entries source room = .error failure) :
    failure.IsOfOptions ∨ Escapes entries room failure := by
  by_cases known : ((entries.map (·.1)).filter (!isOptionKey ·)).isEmpty = true
  · rw [ofEntries_of_known known] at failed
    obtain ⟨fault, stopped, rfl⟩ := mapError_eq_error_iff.1 failed
    cases told : fault.writeFault? room with
    | none => exact .inl (Failure.isOfOptions_ofOptions told)
    | some reason =>
      -- it is due to a value of the entries that the fault cannot be told
      have enough : OptionsDraft.default.JobsOccur entries := fun few => absurd few (by decide)
      have tells : Tells entries room
          (OptionsDraft.default.setAll room entries >>= OptionsDraft.check) :=
        OptionsDraft.tells_setAll_check enough fun e => .value
      obtain ⟨v, occurs, unwritten⟩ := tells fault reason stopped told
      rw [Failure.ofOptions, told]
      exact .inr (.unwritten occurs unwritten)
  · unfold ofEntries at failed
    dsimp only at failed
    rw [if_neg known] at failed
    split at failed
    · cases failed
      exact .inl (Failure.isOfOptions_ofOptions rfl)
    · rename_i textless
      cases failed
      exact .inr (.textless (hasTextlessKey_iff.2 textless))

/-- The failures, apart from problems, that come of what was read of a configuration text: a number in
it is out of range, its collections lie too deep, or it is a map whose entries fail so. -/
inductive ReadEscapes (room : Nat) : Except Yaml.Fault Value → Failure → Prop
  | number {f : Yaml.Fault} {fault : NumberFault} :
    f.cause = .number fault → ReadEscapes room (.error f) (.number fault)
  | tooDeep {f : Yaml.Fault} : f.cause = .tooDeep → ReadEscapes room (.error f) .tooDeep
  | entries {v : Value} {entries : List (Value × Value)} {failure : Failure} :
    v.opened = .map entries → Escapes entries room failure → ReadEscapes room (.ok v) failure

/-- What was read of a configuration text fails by a problem of the configuration, or in one of the
other ways. -/
lemma failure_of_ofRead {read : Except Yaml.Fault Value}
    (failed : ofRead source room read = .error failure) :
    failure.IsOfOptions ∨ ReadEscapes room read failure := by
  unfold ofRead at failed
  split at failed
  · cases failed
    unfold Options.malformed
    split
    · rename_i cause
      exact .inr (.number cause)
    · rename_i cause
      exact .inr (.tooDeep cause)
    · exact .inl ⟨_, rfl, rfl⟩
  · split at failed
    · cases failed
    · rename_i opened
      rcases failure_of_ofEntries failed with known | escapes
      · exact .inl known
      · exact .inr (.entries opened escapes)
    · cases failed
      exact .inl (Failure.isOfOptions_ofOptions rfl)

end Options

end SchemaLint

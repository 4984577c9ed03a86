import Mathlib
import SchemaLint.Proofs.Text.Runs
import SchemaLint.Suppression.Basic

/-!
# Comments that are directives

A comment is a directive if it is the word of one, with blanks in front, and if nothing or a blank
stands behind the word. What stands behind it are ids and separators: the text is a layout of the ids
that are read of it, and of no others (`laysOut_iff`), which are its longest runs of other characters
than separators (`LaysOut.mem_iff`).
-/

namespace SchemaLint.Suppression

/-! ## Ids and what separates them -/

/-- The characters are those of an id. -/
structure IsJoined (run : List Char) : Prop where
  ne_nil : run ≠ []
  joined : ∀ c ∈ run, isSeparator c = false

/-- The text is a layout of ids: the ids in order with separators around them, at least one of which
stands between an id and the next. -/
inductive LaysOut : List String → List Char → Prop
  | nil : LaysOut [] []
  | skip {c ids cs} : isSeparator c → LaysOut ids cs → LaysOut ids (c :: cs)
  | id {id ids rest} : IsJoined id.toList → (∀ c ∈ rest.head?, isSeparator c) → LaysOut ids rest →
    LaysOut (id :: ids) (id.toList ++ rest)

/-- The characters are a longest run of others than separators in a text. -/
def IsRun (run cs : List Char) : Prop :=
  IsJoined run ∧ ∃ before after, cs = before ++ run ++ after ∧
    (∀ c ∈ before.getLast?, isSeparator c) ∧ ∀ c ∈ after.head?, isSeparator c

variable {comment id : String} {c : Char} {cs tail run rest pending : List Char}
  {ids rules : List String}

/-- A separator in front of the ids does not matter. -/
lemma idsFrom_nil_cons (separates : isSeparator c) : idsFrom [] (c :: cs) = idsFrom [] cs := by
  rw [idsFrom, if_pos separates]
  rfl

/-- A run is an id together with what has been read of it before. -/
lemma idsFrom_append (ne : pending ≠ []) (joined : ∀ c ∈ run, isSeparator c = false)
    (ends : ∀ c ∈ rest.head?, isSeparator c) :
    idsFrom pending (run ++ rest) = String.ofList (pending ++ run) :: idsFrom [] rest := by
  have some_pending : pending.isEmpty = false := by simpa using ne
  induction run generalizing pending with
  | nil =>
    rw [List.nil_append, List.append_nil]
    cases rest with
    | nil => simp [idsFrom, ne]
    | cons c rest =>
      have separates : isSeparator c := ends c rfl
      rw [idsFrom_nil_cons separates, idsFrom, if_pos separates, some_pending]
      rfl
  | cons c run ih =>
    obtain ⟨first, others⟩ := List.forall_mem_cons.1 joined
    rw [List.cons_append, idsFrom, if_neg (by simp [first]), ih (by simp) others (by simp),
      List.append_assoc, List.singleton_append]

/-- A run up to a separator is the first id. -/
lemma idsFrom_nil_append (joined : IsJoined run) (ends : ∀ c ∈ rest.head?, isSeparator c) :
    idsFrom [] (run ++ rest) = String.ofList run :: idsFrom [] rest := by
  obtain ⟨c, cs, rfl⟩ := List.exists_cons_of_ne_nil joined.ne_nil
  obtain ⟨first, others⟩ := List.forall_mem_cons.1 joined.joined
  rw [List.cons_append, idsFrom, if_neg (by simp [first]), List.nil_append,
    idsFrom_append (List.cons_ne_nil c []) others ends, List.singleton_append]

/-- The ids of a layout are read back, by induction on it. -/
lemma LaysOut.idsFrom_eq (lays : LaysOut ids cs) : idsFrom [] cs = ids := by
  induction lays with
  | nil => rfl
  | skip separates _ ih => rw [idsFrom_nil_cons separates, ih]
  | id joined ends _ ih => rw [idsFrom_nil_append joined ends, ih, String.ofList_toList]

/-- Every text is a layout of the ids that are read of it. -/
lemma laysOut_idsFrom (cs : List Char) : LaysOut (idsFrom [] cs) cs := by
  induction length : cs.length using Nat.strong_induction_on generalizing cs with
  | _ n ih =>
    subst length
    cases cs with
    | nil => exact .nil
    | cons c cs =>
      cases separates : isSeparator c with
      | true =>
        rw [idsFrom_nil_cons separates]
        exact .skip separates (ih _ (Nat.lt_succ_self _) cs rfl)
      | false =>
        have first : (!isSeparator c) = true := by rw [separates, Bool.not_false]
        obtain ⟨run, rest, text, ne, all, ends⟩ := Text.exists_run_cons (p := (!isSeparator ·)) first cs
        have joined : IsJoined run := ⟨ne, by simpa using all⟩
        have stops : ∀ c ∈ rest.head?, isSeparator c := by simpa using ends
        have shorter : rest.length < (c :: cs).length := by
          rw [text, List.length_append]
          have pos := List.length_pos_iff.2 ne
          omega
        have behind := ih _ shorter rest rfl
        rw [text, idsFrom_nil_append joined stops]
        rw [← String.toList_ofList (l := run)] at joined ⊢
        rw [String.ofList_toList]
        exact .id joined stops behind

/-- A text is a layout of the ids that are read of it, and of no others. -/
lemma laysOut_iff : LaysOut ids cs ↔ idsFrom [] cs = ids := by
  constructor
  · exact LaysOut.idsFrom_eq
  · rintro rfl
    exact laysOut_idsFrom cs

/-! ## Longest runs -/

/-- Two longest runs at the front of one text are the same. -/
lemma IsJoined.front_unique {run' rest' : List Char} (joined : IsJoined run) (joined' : IsJoined run')
    (ends : ∀ c ∈ rest.head?, isSeparator c) (ends' : ∀ c ∈ rest'.head?, isSeparator c)
    (same : run ++ rest = run' ++ rest') : run = run' := by
  have front {w rest : List Char} (joined : IsJoined w) (ends : ∀ c ∈ rest.head?, isSeparator c) :
      (w ++ rest).takeWhile (!isSeparator ·) = w :=
    Text.takeWhile_run (by simpa using joined.joined) (by simpa using ends)
  rw [← front joined ends, same, front joined' ends']

/-- There are no runs in an empty text. -/
lemma not_isRun_nil : ¬IsRun run [] := by
  rintro ⟨joined, before, after, text, -⟩
  simp [joined.ne_nil] at text

/-- A separator in front of a text is in none of its runs. -/
lemma isRun_cons_iff (separates : isSeparator c) : IsRun run (c :: cs) ↔ IsRun run cs := by
  constructor
  · rintro ⟨joined, before, after, text, front, back⟩
    cases before with
    | nil =>
      -- the separator would be the first character of the run
      obtain ⟨d, run, rfl⟩ := List.exists_cons_of_ne_nil joined.ne_nil
      obtain ⟨rfl, -⟩ := List.cons.inj text
      have unseparated := joined.joined c List.mem_cons_self
      simp [separates] at unseparated
    | cons d before =>
      obtain ⟨-, rfl⟩ := List.cons.inj text
      refine ⟨joined, before, after, rfl, fun x mem => front x ?_, back⟩
      rw [List.getLast?_cons, mem]
      rfl
  · rintro ⟨joined, before, after, rfl, front, back⟩
    refine ⟨joined, c :: before, after, rfl, ?_, back⟩
    cases before with
    | nil => simpa using separates
    | cons d before => simpa using front

/-- The runs of a text that starts with one. -/
lemma isRun_append_iff (joined : IsJoined run) (ends : ∀ c ∈ rest.head?, isSeparator c)
    {run' : List Char} : IsRun run' (run ++ rest) ↔ run' = run ∨ IsRun run' rest := by
  constructor
  · rintro ⟨joined', before, after, text, front, back⟩
    obtain rfl | ⟨before, d, rfl⟩ := List.eq_nil_or_concat' before
    · exact .inl (joined'.front_unique joined back ends text.symm)
    · right
      have separates : isSeparator d := front d (by simp)
      rw [List.append_assoc, List.append_eq_append_iff] at text
      obtain ⟨more, front_eq, rest_eq⟩ | ⟨more, run_eq, -⟩ := text
      · refine ⟨joined', more, after, by rw [rest_eq, List.append_assoc], ?_, back⟩
        intro x mem
        refine front x ?_
        rw [front_eq, List.getLast?_append, mem]
        rfl
      · -- the separator would be in the run
        have unseparated := joined.joined d (by simp [run_eq])
        simp [separates] at unseparated
  · rintro (rfl | ⟨joined', before, after, rfl, front, back⟩)
    · exact ⟨joined, [], rest, rfl, by simp, ends⟩
    · refine ⟨joined', run ++ before, after, by simp, ?_, back⟩
      cases before with
      | nil =>
        -- a separator ends the run at the front, so another run is not behind it at once
        obtain ⟨d, run', rfl⟩ := List.exists_cons_of_ne_nil joined'.ne_nil
        have separates : isSeparator d := ends d rfl
        have unseparated := joined'.joined d List.mem_cons_self
        simp [separates] at unseparated
      | cons d before =>
        rw [List.getLast?_append_of_ne_nil _ (List.cons_ne_nil d before)]
        exact front

/-- The ids of a layout are its longest runs. -/
lemma LaysOut.mem_iff (lays : LaysOut ids cs) : id ∈ ids ↔ IsRun id.toList cs := by
  induction lays with
  | nil => exact iff_of_false List.not_mem_nil not_isRun_nil
  | skip separates _ ih => rw [ih, isRun_cons_iff separates]
  | id joined ends _ ih => rw [List.mem_cons, ih, isRun_append_iff joined ends, String.toList_inj]

/-! ## Directives -/

/-- The word of a directive, for the whole file or not. -/
def word (wholeFile : Bool) : String := if wholeFile then "gqlstyle-ignore-file" else "gqlstyle-ignore"

/-- The comment is blanks, the word of a directive, and a text that is empty or starts with a
blank. -/
def IsDirective (comment : String) (wholeFile : Bool) (tail : List Char) : Prop :=
  ∃ gap, comment.toList = gap ++ (word wholeFile).toList ++ tail ∧
    (∀ c ∈ gap, Unicode.isBlank c) ∧ ∀ c ∈ tail.head?, Unicode.isBlank c

/-- Blanks are separators. -/
lemma isSeparator_of_isBlank (blank : Unicode.isBlank c) : isSeparator c := by
  rw [isSeparator, blank, Bool.or_true]

/-- What is left behind a word is what the text has behind it. -/
lemma afterWord_eq_some_iff {w : String} : afterWord w cs = some rest ↔ cs = w.toList ++ rest := by
  constructor
  · intro after
    rw [afterWord] at after
    split at after
    · rename_i front
      obtain ⟨rest', rfl⟩ := List.isPrefixOf_iff_prefix.1 front
      rw [List.drop_left, Option.some.injEq] at after
      rw [after]
    · contradiction
  · rintro rfl
    simp [afterWord]

/-- A separator in front of the ids of rules does not matter. -/
lemma ruleIds_cons (separates : isSeparator c) : ruleIds (c :: cs) = ruleIds cs := by
  rw [ruleIds, idsFrom_nil_cons separates, ruleIds]

/-- Something is read behind the word of a directive just if nothing or a blank stands there. -/
lemma idsAfterWord_eq_some_iff :
    idsAfterWord tail = some rules ↔
      (∀ c ∈ tail.head?, Unicode.isBlank c) ∧ rules = ruleIds tail := by
  rw [eq_comm (a := rules)]
  cases tail with
  | nil =>
    have all : ruleIds [] = [wildcard] := rfl
    simp [idsAfterWord, all]
  | cons c rest =>
    cases blank : Unicode.isBlank c with
    | true => simp [idsAfterWord, blank, ruleIds_cons (isSeparator_of_isBlank blank)]
    | false => simp [idsAfterWord, blank]

/-- The word for the whole file is the other one with an ending. -/
lemma toList_word_true : (word true).toList = (word false).toList ++ "-file".toList := rfl

/-- The word of a directive starts with a `g`. -/
lemma head?_word_append (wholeFile : Bool) : ((word wholeFile).toList ++ tail).head? = some 'g' := by
  cases wholeFile with
  | false => rfl
  | true => rfl

/-- A `g` is no blank. -/
lemma not_isBlank_g : Unicode.isBlank 'g' = false := by decide

/-- Behind the word of a directive for a line the ending does not follow. -/
lemma afterWord_file_eq_none (blank : ∀ c ∈ tail.head?, Unicode.isBlank c) :
    afterWord "-file" tail = none := by
  rw [Option.eq_none_iff_forall_ne_some]
  intro rest after
  rw [afterWord_eq_some_iff] at after
  subst after
  have dash : Unicode.isBlank '-' := blank '-' rfl
  exact absurd dash (by decide)

/-- What is read as a directive is one. -/
lemma exists_isDirective_of_ofComment? {wholeFile : Bool}
    (reads : Directive.ofComment? comment = some ⟨wholeFile, rules⟩) :
    ∃ tail, IsDirective comment wholeFile tail ∧ rules = ruleIds tail := by
  obtain ⟨gap, text, split, blanks, ends⟩ := Text.exists_run Unicode.isBlank comment.toList
  rw [Directive.ofComment?, split, Text.dropWhile_run blanks ends,
    Option.bind_eq_bind, Option.bind_eq_some_iff] at reads
  obtain ⟨rest, after, reads⟩ := reads
  rw [afterWord_eq_some_iff] at after
  subst after
  cases file : afterWord "-file" rest with
  | none =>
    simp only [file, Option.bind_eq_bind, Option.bind_eq_some_iff, Option.pure_def,
      Option.some.injEq, Directive.mk.injEq] at reads
    obtain ⟨_, ids, rfl, rfl⟩ := reads
    obtain ⟨blank, rfl⟩ := idsAfterWord_eq_some_iff.1 ids
    refine ⟨rest, ⟨gap, ?_, blanks, blank⟩, rfl⟩
    rw [split, List.append_assoc]
    rfl
  | some tail =>
    simp only [file, Option.bind_eq_bind, Option.bind_eq_some_iff, Option.pure_def,
      Option.some.injEq, Directive.mk.injEq] at reads
    obtain ⟨_, ids, rfl, rfl⟩ := reads
    obtain ⟨blank, rfl⟩ := idsAfterWord_eq_some_iff.1 ids
    rw [afterWord_eq_some_iff] at file
    subst file
    refine ⟨tail, ⟨gap, ?_, blanks, blank⟩, rfl⟩
    rw [split, toList_word_true, List.append_assoc, List.append_assoc]
    rfl

/-- A directive is read as such, with the ids behind its word. -/
lemma IsDirective.ofComment?_eq {wholeFile : Bool} (is_directive : IsDirective comment wholeFile tail) :
    Directive.ofComment? comment = some ⟨wholeFile, ruleIds tail⟩ := by
  obtain ⟨gap, split, blanks, blank⟩ := is_directive
  have ids : idsAfterWord tail = some (ruleIds tail) := idsAfterWord_eq_some_iff.2 ⟨blank, rfl⟩
  have trimmed : comment.toList.dropWhile Unicode.isBlank = (word wholeFile).toList ++ tail := by
    rw [split, List.append_assoc]
    refine Text.dropWhile_run blanks ?_
    rw [head?_word_append]
    rintro c ⟨⟩
    exact not_isBlank_g
  rw [Directive.ofComment?, trimmed]
  cases wholeFile with
  | false =>
    have after : afterWord "gqlstyle-ignore" ((word false).toList ++ tail) = some tail :=
      afterWord_eq_some_iff.2 rfl
    simp [after, afterWord_file_eq_none blank, ids]
  | true =>
    have after : afterWord "gqlstyle-ignore" ((word true).toList ++ tail) =
        some ("-file".toList ++ tail) := by
      rw [afterWord_eq_some_iff, toList_word_true, List.append_assoc]
      rfl
    have file : afterWord "-file" ("-file".toList ++ tail) = some tail :=
      afterWord_eq_some_iff.2 rfl
    rw [after, Option.bind_eq_bind, Option.bind_some, file]
    simp [ids]

/-- A directive lists the runs behind its word. -/
lemma mem_ruleIds_iff (some_run : ∃ run, IsRun run tail) :
    id ∈ ruleIds tail ↔ IsRun id.toList tail := by
  have lays := laysOut_idsFrom tail
  rw [← lays.mem_iff, ruleIds]
  split
  · rename_i none_read
    obtain ⟨run, is_run⟩ := some_run
    have listed : String.ofList run ∈ idsFrom [] tail := by rwa [lays.mem_iff, String.toList_ofList]
    rw [none_read] at listed
    contradiction
  · rfl

/-- A directive without a run behind its word lists the wildcard. -/
lemma ruleIds_of_no_run (no_run : ¬∃ run, IsRun run tail) : ruleIds tail = [wildcard] := by
  have lays := laysOut_idsFrom tail
  cases read : idsFrom [] tail with
  | nil => rw [ruleIds, read]
  | cons id ids =>
    have listed : id ∈ idsFrom [] tail := read ▸ List.mem_cons_self
    exact absurd ⟨id.toList, lays.mem_iff.1 listed⟩ no_run

/-- The ids of rules in a layout of some ids are these. -/
lemma LaysOut.ruleIds_eq (ne : ids ≠ []) (lays : LaysOut ids tail) : ruleIds tail = ids := by
  rw [ruleIds, lays.idsFrom_eq]
  split
  · contradiction
  · rfl

/-- What the suppression of a directive silences: the rules that it lists, in the file or on one
line. -/
lemma covers_ofDirective_iff (directive : Directive) (line previous : Nat) (d : Diagnostic) :
    (ofDirective directive line previous).covers d ↔
      (directive.wholeFile ∨ d.location.line = if previous = line then line else line + 1) ∧
        (d.rule ∈ directive.rules ∨ wildcard ∈ directive.rules) := by
  rw [ofDirective]
  split
  · simp [covers, listsRule, *]
  · split
    · simp [covers, listsRule, *]
    · simp [covers, listsRule, *]

/-- A comment is read as a directive just if it is one: blanks, the word of a directive, and nothing
or a text that starts with a blank. What it lists are the longest runs of that text of other
characters than separators, or the wildcard if there are none. So a layout of ids behind the word
silences these and no others. -/
theorem Directive.ofComment?_reads (comment : String) :
    ((ofComment? comment).isSome ↔ ∃ wholeFile tail, IsDirective comment wholeFile tail) ∧
    ∀ wholeFile tail, IsDirective comment wholeFile tail →
      ∃ rules, ofComment? comment = some ⟨wholeFile, rules⟩ ∧
        ((∃ run, IsRun run tail) → ∀ id : String, id ∈ rules ↔ IsRun id.toList tail) ∧
        ((¬∃ run, IsRun run tail) → rules = [wildcard]) ∧
        ∀ ids : List String, ids ≠ [] → LaysOut ids tail → rules = ids ∧
          ∀ (line previous : Nat) (d : Diagnostic),
            (ofDirective ⟨wholeFile, rules⟩ line previous).covers d ↔
              (wholeFile ∨ d.location.line = if previous = line then line else line + 1) ∧
                (d.rule ∈ ids ∨ wildcard ∈ ids) := by
  constructor
  · rw [Option.isSome_iff_exists]
    constructor
    · rintro ⟨⟨wholeFile, rules⟩, reads⟩
      obtain ⟨tail, is_directive, -⟩ := exists_isDirective_of_ofComment? reads
      exact ⟨wholeFile, tail, is_directive⟩
    · rintro ⟨wholeFile, tail, is_directive⟩
      exact ⟨_, is_directive.ofComment?_eq⟩
  · intro wholeFile tail is_directive
    refine ⟨ruleIds tail, is_directive.ofComment?_eq, fun some_run id => mem_ruleIds_iff some_run,
      ruleIds_of_no_run, fun ids ne lays => ?_⟩
    rw [lays.ruleIds_eq ne]
    exact ⟨rfl, fun line previous d => covers_ofDirective_iff _ line previous d⟩

/-- Two ids with a comma, blanks and a tab around them, and a word without ids. -/
theorem Directive.ofComment?_reads_pair :
    let tail := " FieldCasing, ,FieldPlurality\t".toList
    IsDirective " gqlstyle-ignore FieldCasing, ,FieldPlurality\t" false tail ∧
      LaysOut ["FieldCasing", "FieldPlurality"] tail ∧
      ofComment? " gqlstyle-ignore FieldCasing, ,FieldPlurality\t" =
        some ⟨false, ["FieldCasing", "FieldPlurality"]⟩ ∧
      (∀ id : String, id ∈ ["FieldCasing", "FieldPlurality"] ↔ IsRun id.toList tail) ∧
      ofComment? "gqlstyle-ignore-file" = some ⟨true, [wildcard]⟩ := by
  intro tail
  have blank : Unicode.isBlank ' ' := by decide
  have is_directive : IsDirective " gqlstyle-ignore FieldCasing, ,FieldPlurality\t" false tail :=
    ⟨[' '], rfl, List.forall_mem_singleton.2 blank, by rintro c ⟨⟩; exact blank⟩
  have lays : LaysOut ["FieldCasing", "FieldPlurality"] tail := laysOut_iff.2 (by decide +kernel)
  obtain ⟨rules, reads, runs, -, laid⟩ := (Directive.ofComment?_reads _).2 _ _ is_directive
  obtain ⟨rfl, -⟩ := laid _ (List.cons_ne_nil _ _) lays
  have bare : IsDirective "gqlstyle-ignore-file" true [] := ⟨[], rfl, by simp, by simp⟩
  obtain ⟨rules, reads_bare, -, none_listed, -⟩ := (Directive.ofComment?_reads _).2 _ _ bare
  obtain rfl := none_listed fun ⟨_, is_run⟩ => not_isRun_nil is_run
  exact ⟨is_directive, lays, reads, runs ⟨_, lays.mem_iff.1 List.mem_cons_self⟩, reads_bare⟩

end SchemaLint.Suppression

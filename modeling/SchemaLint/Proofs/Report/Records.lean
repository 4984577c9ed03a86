import Mathlib
import SchemaLint.Proofs.Json.Reader
import SchemaLint.Report.Lines

/-!
# Records line by line

The records of a report, each on a line of its own, are as many lines as the report has diagnostics,
however lines are told apart, and each line is read as the record of its diagnostic. So both forms of
the records carry the same values: `Report.jsonLines_decode`.

All rests on what is written of a record: it holds printable characters of ASCII only, so the one line
end behind it is the only one.
-/

namespace SchemaLint

/-! ## Lines -/

namespace Text

/-- The lines of a text, where `pending` has been read of the first one. Behind the last character that
ends a line there is a line only if something stands there. -/
def linesFrom (ends : Char → Bool) (pending : List Char) : List Char → List String
  | [] => if pending.isEmpty then [] else [String.ofList pending]
  | c :: cs =>
    if ends c then String.ofList pending :: linesFrom ends [] cs
    else linesFrom ends (pending ++ [c]) cs

/-- The lines of a text, each up to a character that ends it. -/
def splitLines (ends : Char → Bool) (s : String) : List String := linesFrom ends [] s.toList

variable {ends : Char → Bool} {line : List Char} {lines : List String}

/-- Characters that do not end the line belong to it. -/
lemma linesFrom_append (no_end : ∀ c ∈ line, ends c = false) (pending rest : List Char) :
    linesFrom ends pending (line ++ rest) = linesFrom ends (pending ++ line) rest := by
  induction line generalizing pending with
  | nil => rw [List.nil_append, List.append_nil]
  | cons c line ih =>
    obtain ⟨first, others⟩ := List.forall_mem_cons.1 no_end
    rw [List.cons_append, linesFrom, first, if_neg Bool.false_ne_true, ih others, List.append_assoc,
      List.singleton_append]

/-- Lines that hold no line end are the lines of their text. -/
lemma splitLines_join (line_feed : ends '\n') (no_end : ∀ s ∈ lines, ∀ c ∈ s.toList, ends c = false) :
    splitLines ends (String.join (lines.map (· ++ "\n"))) = lines := by
  induction lines with
  | nil => rfl
  | cons s lines ih =>
    obtain ⟨first, others⟩ := List.forall_mem_cons.1 no_end
    have rest : linesFrom ends [] (String.join (lines.map (· ++ "\n"))).toList = lines := ih others
    have line_end : "\n".toList = ['\n'] := rfl
    rw [splitLines, List.map_cons, String.join_cons, String.toList_append, String.toList_append,
      List.append_assoc, linesFrom_append first, List.nil_append, line_end, List.singleton_append,
      linesFrom, if_pos line_feed, String.ofList_toList, rest]

/-- Each line has one line end behind it. -/
lemma countP_join (line_feed : ends '\n') (no_end : ∀ s ∈ lines, ∀ c ∈ s.toList, ends c = false) :
    (String.join (lines.map (· ++ "\n"))).toList.countP ends = lines.length := by
  induction lines with
  | nil => rfl
  | cons s lines ih =>
    obtain ⟨first, others⟩ := List.forall_mem_cons.1 no_end
    have none_inside : s.toList.countP ends = 0 := List.countP_eq_zero.2 (by simpa using first)
    rw [List.map_cons, String.join_cons, String.toList_append, String.toList_append,
      List.countP_append, List.countP_append, none_inside, ih others]
    simp [line_feed, Nat.add_comm]

end Text

/-! ## Records -/

namespace Diagnostic

/-- The value holds what a diagnostic tells, each under its key: what is absent has no member, and
there are no other members. -/
structure IsRecord (d : Diagnostic) (x : Json) : Prop where
  severity : x.get? "severity" = some (.str d.severity.label)
  rule : x.get? "ruleId" = some (.str d.rule)
  message : x.get? "message" = some (.str d.message)
  typeName : x.get? "typeName" = some (.str d.location.typeName)
  fieldName : x.get? "fieldName" = d.location.fieldName.map .str
  argumentName : x.get? "argumentName" = d.location.argumentName.map .str
  fix : x.get? "suggestedFix" = d.fix.map .str
  others : ∀ key, (x.get? key).isSome → key ∈ ["severity", "ruleId", "message", "typeName",
    "fieldName", "argumentName", "suggestedFix"]

/-- The keys of a record with what stands under them. -/
def fields (d : Diagnostic) : List (String × Option String) :=
  [("severity", some d.severity.label), ("ruleId", some d.rule), ("message", some d.message),
    ("typeName", some d.location.typeName), ("fieldName", d.location.fieldName),
    ("argumentName", d.location.argumentName), ("suggestedFix", d.fix)]

/-- A record has the texts that a diagnostic has, in order. -/
lemma toRecord_eq (d : Diagnostic) :
    d.toRecord = .obj (d.fields.filterMap fun (key, s) => s.map fun s => (key, .str s)) := by
  obtain ⟨rule, severity, message, ⟨typeName, fieldName, argumentName, line, column⟩, fix⟩ := d
  cases fieldName <;> cases argumentName <;> cases fix <;> rfl

/-- A record holds texts only. -/
lemma isTextual_toRecord (d : Diagnostic) : d.toRecord.IsTextual := by
  rw [toRecord_eq]
  refine .obj fun m mem => ?_
  obtain ⟨⟨key, s⟩, -, member⟩ := List.mem_filterMap.1 mem
  obtain ⟨s, -, rfl⟩ := Option.map_eq_some_iff.1 member
  exact .str

/-- What is found under a key is a member of that key. -/
lemma exists_mem_of_get? {ms : List (String × Json)} {key : String}
    (found : ((Json.obj ms).get? key).isSome) : ∃ x, (key, x) ∈ ms := by
  rw [Json.get?, Option.isSome_map] at found
  obtain ⟨⟨key', x⟩, first⟩ := Option.isSome_iff_exists.1 found
  have same : key' = key := by simpa using List.find?_some first
  exact ⟨x, List.mem_reverse.1 (same ▸ List.mem_of_find?_eq_some first)⟩

/-- There are no other members than those of the keys. -/
lemma mem_keys_of_get?_toRecord {d : Diagnostic} {key : String}
    (found : (d.toRecord.get? key).isSome) : key ∈ d.fields.map (·.1) := by
  rw [toRecord_eq] at found
  obtain ⟨x, mem⟩ := exists_mem_of_get? found
  obtain ⟨⟨key', s⟩, field, member⟩ := List.mem_filterMap.1 mem
  obtain ⟨s', -, eq⟩ := Option.map_eq_some_iff.1 member
  obtain ⟨rfl, -⟩ := Prod.mk.inj eq
  exact List.mem_map_of_mem (f := Prod.fst) field

/-- The record of a diagnostic is one. -/
lemma isRecord_toRecord (d : Diagnostic) : d.IsRecord d.toRecord := by
  have others (key : String) (found : (d.toRecord.get? key).isSome) := mem_keys_of_get?_toRecord found
  obtain ⟨rule, severity, message, ⟨typeName, fieldName, argumentName, line, column⟩, fix⟩ := d
  -- each of the three keys that may be absent, present or absent
  cases fieldName <;> cases argumentName <;> cases fix <;>
    exact ⟨rfl, rfl, rfl, rfl, rfl, rfl, rfl, others⟩

end Diagnostic

namespace Report

variable {r : Report} {ends : Char → Bool}

/-- The records of a report, each on one line. -/
def recordLines (r : Report) : List String := r.records.map (·.compact)

/-- The lines of a report are its records with a line end behind each. -/
lemma jsonLines_eq (r : Report) : r.jsonLines = String.join (r.recordLines.map (· ++ "\n")) := by
  rw [jsonLines, recordLines, List.map_map]
  rfl

/-- The records of a report hold texts only. -/
lemma isTextual_of_mem_records {x : Json} (mem : x ∈ r.records) : x.IsTextual := by
  obtain ⟨d, -, rfl⟩ := List.mem_map.1 mem
  exact d.isTextual_toRecord

/-- The lines of records are printable. -/
lemma isPrintable_of_mem_recordLines {s : String} (mem : s ∈ r.recordLines) :
    ∀ c ∈ s.toList, IsPrintable c := by
  obtain ⟨x, record, rfl⟩ := List.mem_map.1 mem
  rw [Json.compact, String.toList_ofList]
  exact Json.isPrintable_of_mem_compactChars (isTextual_of_mem_records record)

/-- No line of a record holds a character that ends lines. -/
lemma no_end_of_mem_recordLines (unprintable : ∀ c, ends c → ¬IsPrintable c) :
    ∀ s ∈ r.recordLines, ∀ c ∈ s.toList, ends c = false := by
  intro s mem c inside
  rw [← Bool.not_eq_true]
  exact fun ended => unprintable c ended (isPrintable_of_mem_recordLines mem c inside)

/-- The lines of a report are ASCII text. -/
lemma lt_of_mem_jsonLines {c : Char} (mem : c ∈ r.jsonLines.toList) : c.toNat < 128 := by
  rw [jsonLines_eq, String.toList_join, List.mem_flatMap] at mem
  obtain ⟨line, line_mem, inside⟩ := mem
  obtain ⟨s, record, rfl⟩ := List.mem_map.1 line_mem
  rw [String.toList_append, List.mem_append] at inside
  obtain inside | inside := inside
  · have printable := isPrintable_of_mem_recordLines record c inside
    exact Nat.lt_succ_of_lt printable.2
  · have line_feed : c = '\n' := by simpa using inside
    rw [line_feed]
    decide

/-- Each line is read as its record. -/
lemma map_read?_recordLines (r : Report) : r.recordLines.map Json.read? = r.records.map some := by
  rw [recordLines, List.map_map]
  exact List.map_congr_left fun x mem => Json.read?_compact (isTextual_of_mem_records mem)

/-- The array of a report is read back as its records. -/
lemma read?_jsonText (r : Report) : Json.read? r.jsonText = some (.arr r.records) :=
  Json.read?_indented_line (.arr fun _ mem => isTextual_of_mem_records mem)

/-- Whatever ends a line besides the line feed, as long as no printable character of ASCII does: the
records line by line are ASCII, they hold one line end for each diagnostic and are as many lines, and
each line is read as the record of its diagnostic, in order. The records as an array are read as the
same records. -/
theorem jsonLines_decode (r : Report) (ends : Char → Bool) (line_feed : ends '\n')
    (unprintable : ∀ c, ends c → ¬IsPrintable c) :
    (∀ c ∈ r.jsonLines.toList, c.toNat < 128) ∧
    r.jsonLines.toList.countP ends = r.total ∧
    (Text.splitLines ends r.jsonLines).length = r.total ∧
    List.Forall₂ (fun d line => Json.read? line = some d.toRecord ∧ d.IsRecord d.toRecord)
      r.diagnostics (Text.splitLines ends r.jsonLines) ∧
    ∃ records, Json.read? r.jsonText = some (.arr records) ∧
      (Text.splitLines ends r.jsonLines).map Json.read? = records.map some := by
  have no_end := no_end_of_mem_recordLines (r := r) unprintable
  have lines : Text.splitLines ends r.jsonLines = r.recordLines := by
    rw [jsonLines_eq, Text.splitLines_join line_feed no_end]
  have total : r.recordLines.length = r.total := by
    rw [recordLines, List.length_map, records, List.length_map, Report.total]
  rw [lines]
  refine ⟨fun c => lt_of_mem_jsonLines, ?_, total, ?_, r.records, r.read?_jsonText,
    r.map_read?_recordLines⟩
  · rw [jsonLines_eq, Text.countP_join line_feed no_end, total]
  · rw [recordLines, records, List.map_map, List.forall₂_map_right_iff, List.forall₂_same]
    exact fun d _ => ⟨Json.read?_compact d.isTextual_toRecord, d.isRecord_toRecord⟩

/-- A report whose texts hold line ends, quotes and a character beyond the basic plane. -/
def manyLined : Report :=
  ⟨[⟨"TypeCasing", .error, "a\nb\r\u2028\"", ⟨"T\\", none, none, 1, 6⟩, some "\u00e9"⟩,
    ⟨"", .warning, "\u2029\x7f😀", ⟨"Query", some "\u0085", some "", 0, 0⟩, none⟩], 0, "a.graphql"⟩

/-- Two lines, though the texts of the report hold ends of lines of many kinds. -/
theorem jsonLines_decode_manyLined :
    let ends (c : Char) : Bool := !decide (IsPrintable c)
    ends '\n' ∧ (∀ c, ends c → ¬IsPrintable c) ∧
    manyLined.jsonLines.toList.countP ends = 2 ∧
    (Text.splitLines ends manyLined.jsonLines).length = 2 ∧
    List.Forall₂ (fun d line => Json.read? line = some d.toRecord ∧ d.IsRecord d.toRecord)
      manyLined.diagnostics (Text.splitLines ends manyLined.jsonLines) := by
  intro ends
  have line_feed : ends '\n' := by decide
  have unprintable : ∀ c, ends c → ¬IsPrintable c := by simp [ends]
  obtain ⟨-, count, length, lines, -⟩ := jsonLines_decode manyLined ends line_feed unprintable
  exact ⟨line_feed, unprintable, count, length, lines⟩

end Report

end SchemaLint

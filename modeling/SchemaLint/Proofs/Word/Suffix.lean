import Mathlib
import SchemaLint.Word.Basic

/-!
# Names without a suffix

A name loses the first of some suffixes that stands behind a front of it. What is left is the stem of
the name, unless this suffix is the empty one: then nothing is left of the name,
`Word.isStem_stripSuffix_iff`.

Two suffixes can only stand behind fronts of one name if one ends the other. So the order of the
suffixes matters for none in which no suffix ends another.
-/

namespace SchemaLint.Word

variable {name front suffix : String} {suffixes : List String}

/-! ## Fronts and endings -/

/-- A name ends with a suffix if something stands in front of it. -/
lemma endsWith_iff : endsWith name suffix ↔ ∃ front, name = front ++ suffix := by
  rw [endsWith, List.isSuffixOf_iff_suffix]
  constructor
  · rintro ⟨front, text⟩
    refine ⟨String.ofList front, ?_⟩
    rw [← String.toList_inj, String.toList_append, String.toList_ofList, text]
  · rintro ⟨front, rfl⟩
    exact ⟨front.toList, (String.toList_append ..).symm⟩

/-- Of two suffixes of a name one ends the other. -/
lemma endsWith_or_endsWith {s t : String} (ends : endsWith name s) (ends' : endsWith name t) :
    endsWith s t ∨ endsWith t s := by
  simp only [endsWith, List.isSuffixOf_iff_suffix] at ends ends' ⊢
  exact (List.suffix_or_suffix_of_suffix ends ends').symm

/-- What is left of a name without an ending stands in front of it. -/
lemma dropEnding_isPrefix (name : String) (n : Nat) : (dropEnding name n).toList <+: name.toList := by
  rw [dropEnding]
  split
  · exact List.nil_prefix
  · rw [String.toList_ofList]
    exact List.take_prefix _ _

/-- What is left of a name without its suffix is a front of it. -/
lemma stripSuffix_isPrefix : (stripSuffix suffixes name).toList <+: name.toList := by
  rw [stripSuffix]
  split
  · exact dropEnding_isPrefix _ _
  · exact List.prefix_rfl

/-- An ending that is not empty leaves the front. -/
lemma dropEnding_append (ne : suffix ≠ "") : dropEnding (front ++ suffix) suffix.length = front := by
  have pos : suffix.length ≠ 0 := mt String.length_eq_zero_iff.1 ne
  rw [dropEnding, if_neg pos, String.length_append, Nat.add_sub_cancel, String.toList_append,
    ← String.length_toList, List.take_left, String.ofList_toList]

/-! ## The suffix that is lost -/

/-- The suffix stands behind a front of the name that is not empty. -/
def StandsBehind (name suffix : String) : Prop := ∃ front, front ≠ "" ∧ name = front ++ suffix

/-- A suffix stands behind a front just if it ends the name and is shorter. -/
lemma standsBehind_iff :
    StandsBehind name suffix ↔ endsWith name suffix && suffix.length < name.length := by
  rw [Bool.and_eq_true, endsWith_iff, decide_eq_true_iff]
  constructor
  · rintro ⟨front, ne, rfl⟩
    have pos : front.length ≠ 0 := mt String.length_eq_zero_iff.1 ne
    rw [String.length_append]
    exact ⟨⟨front, rfl⟩, by omega⟩
  · rintro ⟨⟨front, rfl⟩, shorter⟩
    refine ⟨front, ?_, rfl⟩
    rintro rfl
    rw [String.empty_append] at shorter
    exact absurd shorter (lt_irrefl _)

/-- The suffix is the first one that stands behind a front of the name. -/
def IsFirstBehind (suffixes : List String) (name suffix : String) : Prop :=
  StandsBehind name suffix ∧
    ∃ before after, suffixes = before ++ suffix :: after ∧ ∀ s ∈ before, ¬StandsBehind name s

/-- The suffix that is taken off is the first that stands behind something. -/
lemma find?_eq_some_iff_isFirstBehind :
    suffixes.find? (fun s => endsWith name s && s.length < name.length) = some suffix ↔
      IsFirstBehind suffixes name suffix := by
  simp only [List.find?_eq_some_iff_append, IsFirstBehind, standsBehind_iff, Bool.not_eq_true,
    Bool.not_eq_true']

/-- A name either has no suffix to lose, or loses the first one. -/
lemma stripSuffix_cases (suffixes : List String) (name : String) :
    (stripSuffix suffixes name = name ∧ ∀ s ∈ suffixes, ¬StandsBehind name s) ∨
      ∃ s, IsFirstBehind suffixes name s ∧
        stripSuffix suffixes name = dropEnding name s.length := by
  rw [stripSuffix]
  cases found : suffixes.find? fun s => endsWith name s && s.length < name.length with
  | none =>
    refine .inl ⟨rfl, fun s mem => ?_⟩
    rw [standsBehind_iff]
    exact List.find?_eq_none.1 found s mem
  | some s => exact .inr ⟨s, find?_eq_some_iff_isFirstBehind.1 found, rfl⟩

/-- The first suffix behind something is one of the suffixes. -/
lemma IsFirstBehind.mem (first : IsFirstBehind suffixes name suffix) : suffix ∈ suffixes := by
  obtain ⟨-, before, after, rfl, -⟩ := first
  exact List.mem_append_right _ List.mem_cons_self

/-- No suffix of a list ends another one. -/
def NoneEnds (suffixes : List String) : Prop :=
  ∀ s ∈ suffixes, ∀ t ∈ suffixes, endsWith s t → s = t

/-- Of suffixes that do not end each other at most one stands behind a front of a name. -/
lemma NoneEnds.unique {s t : String} (apart : NoneEnds suffixes) (mem : s ∈ suffixes)
    (mem' : t ∈ suffixes) (behind : StandsBehind name s) (behind' : StandsBehind name t) : s = t := by
  obtain ⟨front, -, same⟩ := behind
  obtain ⟨front', -, same'⟩ := behind'
  have ends := endsWith_or_endsWith (endsWith_iff.2 ⟨front, same⟩) (endsWith_iff.2 ⟨front', same'⟩)
  cases ends with
  | inl ends => exact apart s mem t mem' ends
  | inr ends => exact (apart t mem' s mem ends).symm

/-- Suffixes that do not end each other may come in any order and repeatedly. -/
lemma NoneEnds.stripSuffix_eq {suffixes' : List String} (apart : NoneEnds suffixes)
    (same : ∀ s, s ∈ suffixes' ↔ s ∈ suffixes) :
    stripSuffix suffixes' name = stripSuffix suffixes name := by
  obtain ⟨whole, none⟩ | ⟨s, first, cut⟩ := stripSuffix_cases suffixes name
  · obtain ⟨whole', -⟩ | ⟨t, first', -⟩ := stripSuffix_cases suffixes' name
    · rw [whole, whole']
    · exact absurd first'.1 (none t ((same t).1 first'.mem))
  · obtain ⟨-, none'⟩ | ⟨t, first', cut'⟩ := stripSuffix_cases suffixes' name
    · exact absurd first.1 (none' s ((same s).2 first.mem))
    · have eq := apart.unique first.mem ((same t).1 first'.mem) first.1 first'.1
      rw [cut, cut', eq]

/-! ## The stem -/

/-- `stem` is what is left of a name without one of some suffixes: a front of the name, empty only if
the name is. It is all of the name if none of the suffixes is shorter and ends it, and else what one of
them stands behind. -/
structure IsStem (suffixes : List String) (name stem : String) : Prop where
  front : ∃ rest, name = stem ++ rest
  ne_empty : name ≠ "" → stem ≠ ""
  ends : (stem = name ∧ ∀ s ∈ suffixes, s.length < name.length → ¬endsWith name s) ∨
    ∃ s ∈ suffixes, name = stem ++ s

/-- What is left without it is a stem, unless it is empty. -/
lemma IsFirstBehind.isStem (first : IsFirstBehind suffixes name suffix) (ne : suffix ≠ "") :
    IsStem suffixes name (dropEnding name suffix.length) := by
  obtain ⟨front, front_ne, rfl⟩ := first.1
  rw [dropEnding_append ne]
  exact ⟨⟨suffix, rfl⟩, fun _ => front_ne, .inr ⟨suffix, first.mem, rfl⟩⟩

/-- Nothing is left without an empty one. -/
lemma IsFirstBehind.stripSuffix_eq_empty (first : IsFirstBehind suffixes name "") :
    stripSuffix suffixes name = "" := by
  rw [stripSuffix, find?_eq_some_iff_isFirstBehind.2 first]
  rfl

/-- What is left of a name is always a front of it. It is the stem of the name unless the empty suffix
is the first one that stands behind a front of the name, which is then the name itself: in this case
nothing is left. It depends only on which suffixes there are, and not on their order, if none of them
ends another. -/
theorem isStem_stripSuffix_iff (suffixes : List String) (name : String) :
    (stripSuffix suffixes name).toList <+: name.toList ∧
    (IsStem suffixes name (stripSuffix suffixes name) ↔ ¬IsFirstBehind suffixes name "") ∧
    (IsFirstBehind suffixes name "" → stripSuffix suffixes name = "") ∧
    (NoneEnds suffixes → ∀ suffixes', (∀ s, s ∈ suffixes' ↔ s ∈ suffixes) →
      stripSuffix suffixes' name = stripSuffix suffixes name) := by
  refine ⟨stripSuffix_isPrefix, ⟨?_, ?_⟩, IsFirstBehind.stripSuffix_eq_empty,
    fun apart _ => apart.stripSuffix_eq⟩
  · intro stem first
    obtain ⟨front, ne, same⟩ := first.1
    rw [String.append_empty] at same
    exact stem.ne_empty (same ▸ ne) first.stripSuffix_eq_empty
  · intro not_empty
    obtain ⟨whole, none⟩ | ⟨s, first, cut⟩ := stripSuffix_cases suffixes name
    · rw [whole]
      refine ⟨⟨"", String.append_empty.symm⟩, id, .inl ⟨rfl, fun s mem shorter ends => ?_⟩⟩
      exact none s mem (standsBehind_iff.2 (by simp [ends, shorter]))
    · rw [cut]
      exact first.isStem fun eq => not_empty (eq ▸ first)

/-- The suffixes that name roles do not end each other, so they may come in any order. An empty suffix
in front of them takes all of a name. -/
theorem isStem_stripSuffix_iff_roles :
    (NoneEnds roleSuffixes ∧ (∀ s, s ∈ roleSuffixes.reverse ↔ s ∈ roleSuffixes) ∧
      stripSuffix roleSuffixes.reverse "CountriesFilter" = "Countries") ∧
    (¬IsFirstBehind roleSuffixes "CountriesFilter" "" ∧
      IsStem roleSuffixes "CountriesFilter" "Countries") ∧
    IsFirstBehind ("" :: roleSuffixes) "CountriesFilter" "" ∧
    stripSuffix ("" :: roleSuffixes) "CountriesFilter" = "" := by
  have apart : NoneEnds roleSuffixes := by unfold NoneEnds; decide +kernel
  have same (s : String) : s ∈ roleSuffixes.reverse ↔ s ∈ roleSuffixes := List.mem_reverse
  have left : stripSuffix roleSuffixes "CountriesFilter" = "Countries" := by decide +kernel
  have not_first : ¬IsFirstBehind roleSuffixes "CountriesFilter" "" := fun first =>
    absurd first.mem (by decide)
  have first : IsFirstBehind ("" :: roleSuffixes) "CountriesFilter" "" :=
    ⟨⟨"CountriesFilter", by decide, rfl⟩, [], roleSuffixes, rfl, List.forall_mem_nil _⟩
  obtain ⟨-, stem, -, order⟩ := isStem_stripSuffix_iff roleSuffixes "CountriesFilter"
  obtain ⟨-, -, emptied, -⟩ := isStem_stripSuffix_iff ("" :: roleSuffixes) "CountriesFilter"
  refine ⟨⟨apart, same, ?_⟩, ⟨not_first, ?_⟩, first, emptied first⟩
  · rw [order apart _ same, left]
  · rw [← left]
    exact stem.2 not_first

/-- What is left of a name need not be its stem: the empty suffix takes all of `User`. -/
theorem stripSuffix_empty_suffix :
    ¬∀ suffixes name, IsStem suffixes name (stripSuffix suffixes name) := by
  intro stems
  have nothing : stripSuffix [""] "User" = "" := by decide +kernel
  exact (stems [""] "User").ne_empty (by decide) nothing

end SchemaLint.Word

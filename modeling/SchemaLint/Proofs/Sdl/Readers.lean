import Mathlib
import SchemaLint.Proofs.Sdl.Places

/-!
# Where readers leave what they read

Each reader of the grammar takes some tokens from the front, and what it makes of them stands where
some of them stand. So a document that is read from a text is located: `Document.located_of_read`.
-/

namespace SchemaLint.Sdl

namespace Reader

variable {α β : Type} {r : Reader α} {next : α → Reader β} {front : List Position}
  {places : α → List Position} {places' : β → List Position}

/-- The reader takes tokens from the front. What it makes of them stands at places behind one another
among `front`, which came before, and those of the tokens. -/
def Takes (r : Reader α) (front : List Position) (places : α → List Position) : Prop :=
  ∀ ⦃fault? ts a rest⦄, r fault? ts = .ok (a, rest) →
    ∃ taken, ts = taken ++ rest ∧ (places a).Sublist (front ++ taken.map (·.position))

/-- The reader takes tokens from the front. -/
def Skips (r : Reader α) : Prop := r.Takes [] fun _ => []

/-- A reader that takes tokens takes them even if nobody asks where its result stands. -/
lemma Takes.skips (takes : r.Takes front places) : r.Skips := by
  intro fault? ts a rest read
  obtain ⟨taken, eq, -⟩ := takes read
  exact ⟨taken, eq, List.nil_sublist _⟩

/-- What a reader makes stands behind all that came before it. -/
lemma Takes.behind (takes : r.Takes [] places) : r.Takes front fun a => front ++ places a := by
  intro fault? ts a rest read
  obtain ⟨taken, eq, sub⟩ := takes read
  exact ⟨taken, eq, (List.Sublist.refl front).append sub⟩

/-- What is returned without reading stands where things stood before. -/
lemma Takes.pure {a : α} (sub : (places a).Sublist front) :
    Takes (Pure.pure a) front places := by
  intro fault? ts b rest read
  cases read
  exact ⟨[], rfl, by simpa using sub⟩

/-- To return something takes no tokens. -/
lemma pure_skips (a : α) : Skips (Pure.pure a) := Takes.pure (List.Sublist.refl _)

/-- A reader that fails takes nothing. -/
lemma Takes.throw {f : Fault} : Takes (throw f : Reader α) front places := by
  intro fault? ts a rest read
  cases read

/-- Two readers take tokens one after the other, and the second places its result among those of
both. -/
lemma Takes.bind (first : r.Takes front places) (second : ∀ a, (next a).Takes (places a) places') :
    (r >>= next).Takes front places' := by
  intro fault? ts b rest read
  obtain ⟨a, between, read_first, read_next⟩ := bind_eq_ok_iff.1 read
  obtain ⟨taken, rfl, sub⟩ := first read_first
  obtain ⟨taken', rfl, sub'⟩ := second a read_next
  refine ⟨taken ++ taken', (List.append_assoc _ _ _).symm, ?_⟩
  rw [List.map_append, ← List.append_assoc]
  exact sub'.trans (sub.append (List.Sublist.refl _))

/-- What a reader makes that the result does not hold need not have places. -/
lemma Skips.bind (first : r.Skips) (second : ∀ a, (next a).Takes front places') :
    (r >>= next).Takes front places' := by
  have behind : r.Takes front fun _ => front ++ [] := first.behind
  rw [List.append_nil] at behind
  exact behind.bind second

/-! ## Tokens -/

/-- A look ahead leaves the tokens as they are. -/
lemma lookAhead_eq_ok {n : Nat} {fault? : Option Fault} {ts left : List Token} {t : Token}
    (looked : lookAhead n fault? ts = .ok (t, left)) : left = ts := by
  obtain ⟨_, _, got, looked⟩ := bind_eq_ok_iff.1 looked
  cases got
  obtain ⟨_, _, asked, looked⟩ := bind_eq_ok_iff.1 looked
  cases asked
  revert looked
  cases ts[n]? with
  | some t =>
    rintro ⟨⟩
    rfl
  | none =>
    cases fault? with
    | some f => exact nofun
    | none =>
      rintro ⟨⟩
      rfl

/-- A look ahead takes no tokens. -/
lemma lookAhead_skips (n : Nat) : (lookAhead n).Skips := by
  intro fault? ts t rest looked
  exact ⟨[], (lookAhead_eq_ok looked).symm, List.nil_sublist _⟩

/-- A look at the next token takes no tokens. -/
lemma peek_skips : peek.Skips := lookAhead_skips 0

/-- What is left behind the next token is the rest, if it is passed over. -/
lemma advance_eq_ok {fault? : Option Fault} {ts left : List Token}
    (advanced : advance fault? ts = .ok ((), left)) : left = ts.drop 1 := by
  obtain ⟨_, between, drop, read⟩ := bind_eq_ok_iff.1 advanced
  cases drop
  obtain ⟨t, left', got, read⟩ := bind_eq_ok_iff.1 read
  cases read
  exact lookAhead_eq_ok got

/-- To pass over a token takes it from the front. -/
lemma advance_skips : advance.Skips := by
  intro fault? ts a rest read
  rw [advance_eq_ok read]
  exact ⟨ts.take 1, (List.take_append_drop 1 ts).symm, List.nil_sublist _⟩

/-- To ask for the tokens takes none of them. -/
lemma get_skips : (get : Reader (List Token)).Skips := by
  intro fault? ts left rest read
  cases read
  exact ⟨[], rfl, List.nil_sublist _⟩

/-- To count the tokens takes none of them. -/
lemma bound_skips : bound.Skips := get_skips.bind fun _ => pure_skips _

/-- An unexpected token ends the reading. -/
lemma unexpected_takes : (unexpected : Reader α).Takes front places :=
  peek_skips.bind fun _ => .throw

/-- To look for a punctuator takes no tokens. -/
lemma sees_skips (p : Punct) : (sees p).Skips := peek_skips.bind fun _ => pure_skips _

/-- To look for a keyword takes no tokens. -/
lemma seesKeyword_skips (word : String) : (seesKeyword word).Skips := peek_skips.bind fun _ => pure_skips _

/-- A punctuator is taken from the front, if it is taken. -/
lemma accept_skips (p : Punct) : (accept p).Skips := by
  refine (sees_skips p).bind fun seen => ?_
  split
  · exact advance_skips.bind fun _ => pure_skips _
  · exact pure_skips _

/-- A punctuator that is taken is the next token. -/
lemma exists_of_accept {p : Punct} {fault? : Option Fault} {ts left : List Token}
    (accepted : accept p fault? ts = .ok (true, left)) : ∃ t, ts = t :: left := by
  obtain ⟨seen, left', looked, behind⟩ := bind_eq_ok_iff.1 accepted
  obtain ⟨t, same, got, eq⟩ := bind_eq_ok_iff.1 looked
  cases eq
  obtain rfl := lookAhead_eq_ok got
  split at behind
  · rename_i seen
    obtain ⟨⟨⟩, rest, advanced, eq⟩ := bind_eq_ok_iff.1 behind
    cases eq
    obtain rfl := advance_eq_ok advanced
    cases left' with
    | nil =>
      cases fault? with
      | some f => cases got
      | none =>
        cases got
        cases seen
    | cons t ts => exact ⟨t, rfl⟩
  · cases behind

/-- A keyword is taken from the front, if it is taken. -/
lemma acceptKeyword_skips (word : String) : (acceptKeyword word).Skips := by
  refine (seesKeyword_skips word).bind fun seen => ?_
  split
  · exact advance_skips.bind fun _ => pure_skips _
  · exact pure_skips _

/-- A punctuator that has to come is taken from the front. -/
lemma expect_skips (p : Punct) : (expect p).Skips := by
  refine peek_skips.bind fun t => ?_
  split
  · exact advance_skips
  · exact .throw

/-- A keyword that has to come is taken from the front. -/
lemma expectKeyword_skips (word : String) : (expectKeyword word).Skips := by
  refine peek_skips.bind fun t => ?_
  split
  · exact advance_skips
  · exact .throw

/-- A name stands where its token does. -/
lemma name_takes : name.Takes [] fun n => [n.position] := by
  intro fault? ts n rest read
  obtain ⟨⟨lexeme, position⟩, left, got, read⟩ := bind_eq_ok_iff.1 read
  cases lexeme with
  | name s =>
    obtain ⟨⟨⟩, left', advanced, read⟩ := bind_eq_ok_iff.1 read
    cases read
    cases ts with
    | nil => cases fault? <;> cases got
    | cons t ts =>
      cases got
      exact ⟨[_], by rw [advance_eq_ok advanced]; rfl, List.Sublist.refl _⟩
  | _ => cases read

/-! ## Repetition -/

section Repetition
variable {item : Reader α} (takes : item.Takes [] places)
include takes

/-- Items up to a closing token stand one behind the other, by induction on the fuel. -/
lemma untilClosed_takes (close : Punct) (fuel : Nat) :
    (untilClosed close item fuel).Takes [] (·.flatMap places) := by
  induction fuel with
  | zero => exact .pure (List.Sublist.refl _)
  | succ fuel ih =>
    refine (accept_skips close).bind fun closed => ?_
    split
    · exact .pure (List.Sublist.refl _)
    · exact takes.bind fun x => ih.behind.bind fun xs => .pure (List.Sublist.refl _)

/-- Items between two punctuators stand one behind the other. -/
lemma between_takes («open» close : Punct) :
    (between «open» close item).Takes [] (·.flatMap places) :=
  (expect_skips «open»).bind fun _ => bound_skips.bind fun fuel => untilClosed_takes takes close fuel

/-- So do items between two punctuators if there has to be one. -/
lemma someBetween_takes («open» close : Punct) :
    (someBetween «open» close item).Takes [] (·.flatMap places) :=
  (expect_skips «open»).bind fun _ => takes.bind fun _ => bound_skips.bind fun fuel =>
    (untilClosed_takes takes close fuel).behind.bind fun _ => .pure (List.Sublist.refl _)

/-- So do items between two punctuators that may be missing. -/
lemma optionalBetween_takes («open» close : Punct) :
    (optionalBetween «open» close item).Takes [] (·.flatMap places) := by
  refine (sees_skips «open»).bind fun seen => ?_
  split
  · exact someBetween_takes takes «open» close
  · exact .pure (List.Sublist.refl _)

/-- Further items behind separators stand one behind the other, by induction on the fuel. -/
lemma separatedRest_takes (separator : Punct) (fuel : Nat) :
    (separatedRest separator item fuel).Takes [] (·.flatMap places) := by
  induction fuel with
  | zero => exact .pure (List.Sublist.refl _)
  | succ fuel ih =>
    refine (accept_skips separator).bind fun seen => ?_
    split
    · exact takes.bind fun x => ih.behind.bind fun xs => .pure (List.Sublist.refl _)
    · exact .pure (List.Sublist.refl _)

/-- Items with separators between them stand one behind the other. -/
lemma separated_takes (separator : Punct) :
    (separated separator item).Takes [] (·.flatMap places) :=
  (accept_skips separator).bind fun _ => takes.bind fun _ => bound_skips.bind fun fuel =>
    (separatedRest_takes takes separator fuel).behind.bind fun _ => .pure (List.Sublist.refl _)

/-- Items that start with a punctuator stand one behind the other, by induction on the fuel. -/
lemma whileSeen_takes (p : Punct) (fuel : Nat) :
    (whileSeen p item fuel).Takes [] (·.flatMap places) := by
  induction fuel with
  | zero => exact .pure (List.Sublist.refl _)
  | succ fuel ih =>
    refine (sees_skips p).bind fun seen => ?_
    split
    · exact takes.bind fun x => ih.behind.bind fun xs => .pure (List.Sublist.refl _)
    · exact .pure (List.Sublist.refl _)

end Repetition

/-! ## Types -/

/-- What is nested too deeply ends the reading. -/
lemma tooDeep_takes : (tooDeep : Reader α).Takes front places := peek_skips.bind fun _ => .throw

/-- A name is taken from the front. -/
lemma name_skips : name.Skips := name_takes.skips

/-- A token that is looked at and then taken is the first of those that are taken. -/
lemma Takes.accept {p : Punct} {next : Token → Bool → Reader β}
    (accepted : ∀ t, (next t true).Takes [t.position] places')
    (refused : ∀ t, (next t false).Takes [] places') :
    (do let t ← peek; let seen ← Reader.accept p; next t seen).Takes [] places' := by
  intro fault? ts b rest read
  obtain ⟨t, left, got, read_on⟩ := bind_eq_ok_iff.1 read
  obtain rfl := lookAhead_eq_ok got
  obtain ⟨seen, left', taken, behind⟩ := bind_eq_ok_iff.1 read_on
  cases seen with
  | true =>
    obtain ⟨t, rfl⟩ := exists_of_accept taken
    cases got
    obtain ⟨more, rfl, sub⟩ := accepted _ behind
    exact ⟨t :: more, rfl, sub⟩
  | false =>
    obtain ⟨none_taken, rfl, -⟩ := accept_skips p taken
    obtain ⟨more, rfl, sub⟩ := refused t behind
    refine ⟨none_taken ++ more, (List.append_assoc _ _ _).symm, sub.trans ?_⟩
    rw [List.map_append]
    exact List.sublist_append_right _ _

/-- A type stands where its first token does. -/
lemma typeExpr_takes (depth : Nat) : (typeExpr depth).Takes [] fun t => [t.position] := by
  induction depth with
  | zero =>
    refine Takes.accept (fun t => tooDeep_takes) fun t => ?_
    exact name_takes.bind fun n => (accept_skips .bang).bind fun required =>
      .pure (List.Sublist.refl _)
  | succ depth ih =>
    refine Takes.accept (fun t => ?_) fun t => ?_
    · exact ih.skips.bind fun item => (expect_skips _).bind fun _ =>
        (accept_skips .bang).bind fun required => .pure (List.Sublist.refl _)
    · exact name_takes.bind fun n => (accept_skips .bang).bind fun required =>
        .pure (List.Sublist.refl _)

/-- A type is taken from the front. -/
lemma typeExpr_skips (depth : Nat) : (typeExpr depth).Skips := (typeExpr_takes depth).skips

/-! ## Values and directives -/

/-- A member of an object value is taken from the front. -/
lemma objectMember_skips {value : Reader Unit} (skips : value.Skips) :
    (objectMember value).Skips :=
  name_skips.bind fun _ => (expect_skips _).bind fun _ => skips

/-- A value is taken from the front, by induction on the levels that are left. -/
lemma value_skips (constant : Bool) (depth : Nat) : (value constant depth).Skips := by
  induction depth using Nat.strong_induction_on with
  | _ depth ih =>
    unfold value
    refine peek_skips.bind fun t => ?_
    split
    · cases depth with
      | zero => exact tooDeep_takes
      | succ depth =>
        exact (between_takes (ih depth (Nat.lt_succ_self _)) _ _).skips.bind fun _ => pure_skips _
    · cases depth with
      | zero => exact tooDeep_takes
      | succ depth =>
        have member := objectMember_skips (ih depth (Nat.lt_succ_self _))
        exact (between_takes member _ _).skips.bind fun _ => pure_skips _
    -- names, strings and numbers
    any_goals exact advance_skips
    · split
      · refine (lookAhead_skips 1).bind fun next => ?_
        split <;> exact .throw
      · exact advance_skips.bind fun _ => name_skips.bind fun _ => pure_skips _
    · exact unexpected_takes

/-- An argument that is passed is taken from the front. -/
lemma passedArgument_skips (constant : Bool) (depth : Nat) :
    (passedArgument constant depth).Skips :=
  name_skips.bind fun _ => (expect_skips _).bind fun _ => value_skips constant depth

/-- Arguments that are passed are taken from the front. -/
lemma passedArguments_skips (constant : Bool) (depth : Nat) :
    (passedArguments constant depth).Skips :=
  (optionalBetween_takes (passedArgument_skips constant depth) _ _).skips.bind fun _ =>
    pure_skips _

/-- A directive that is applied is taken from the front. -/
lemma appliedDirective_skips (constant : Bool) (depth : Nat) :
    (appliedDirective constant depth).Skips :=
  (expect_skips _).bind fun _ => name_skips.bind fun _ => passedArguments_skips constant depth

/-- Directives that are applied are taken from the front. -/
lemma appliedDirectives_skips (constant : Bool) (depth : Nat) :
    (appliedDirectives constant depth).Skips :=
  bound_skips.bind fun fuel =>
    (whileSeen_takes (appliedDirective_skips constant depth) _ fuel).skips.bind fun _ =>
      pure_skips _

/-- Directives with constant arguments are taken from the front. -/
lemma constDirectives_skips : constDirectives.Skips := appliedDirectives_skips true maxDepth

/-! ## Definitions of types -/

/-- To look for a description takes no tokens. -/
lemma seesDescription_skips : seesDescription.Skips := by
  refine peek_skips.bind fun t => ?_
  split <;> exact pure_skips _

/-- A description is taken from the front, if there is one. -/
lemma description_skips : description.Skips := by
  refine seesDescription_skips.bind fun seen => ?_
  split
  · exact advance_skips
  · exact pure_skips _

/-- A default is taken from the front, if there is one. -/
lemma defaultValue_skips : defaultValue.Skips := by
  refine (accept_skips _).bind fun seen => ?_
  split
  · exact value_skips true maxDepth
  · exact pure_skips _

/-- The parts of an argument stand one behind the other. -/
lemma argumentNode_takes : argumentNode.Takes [] (·.places) :=
  description_skips.bind fun _ => name_takes.bind fun _ => (expect_skips _).bind fun _ =>
    (typeExpr_takes maxDepth).behind.bind fun _ => defaultValue_skips.bind fun _ =>
      constDirectives_skips.bind fun _ => .pure (List.Sublist.refl _)

/-- The parts of arguments stand one behind the other. -/
lemma argumentNodes_takes : argumentNodes.Takes [] (·.flatMap (·.places)) :=
  optionalBetween_takes argumentNode_takes _ _

/-- The parts of a field stand one behind the other. -/
lemma fieldNode_takes : fieldNode.Takes [] (·.places) :=
  description_skips.bind fun _ => name_takes.bind fun _ => argumentNodes_takes.behind.bind fun _ =>
    (expect_skips _).bind fun _ => (typeExpr_takes maxDepth).behind.bind fun _ =>
      constDirectives_skips.bind fun _ => .pure (List.Sublist.refl _)

/-- The parts of fields stand one behind the other. -/
lemma fieldNodes_takes : fieldNodes.Takes [] (·.flatMap (·.places)) :=
  optionalBetween_takes fieldNode_takes _ _

/-- The parts of input fields stand one behind the other. -/
lemma inputFieldNodes_takes : inputFieldNodes.Takes [] (·.flatMap (·.places)) := by
  refine (optionalBetween_takes argumentNode_takes _ _).bind fun inputs => .pure ?_
  rw [List.flatMap_map]
  exact List.Sublist.refl _

/-- The places of names, listed one by one. -/
lemma flatMap_position (names : List Ident) :
    (names.flatMap fun n => [n.position]) = names.map (·.position) :=
  List.map_eq_flatMap.symm

/-- Names with separators between them stand one behind the other. -/
lemma names_takes (separator : Punct) :
    (separated separator name).Takes [] (·.map (·.position)) := by
  simpa only [flatMap_position] using separated_takes name_takes separator

/-- The names of interfaces stand one behind the other. -/
lemma interfaceNames_takes : interfaceNames.Takes [] (·.map (·.position)) := by
  refine (acceptKeyword_skips _).bind fun seen => ?_
  split
  · exact names_takes _
  · exact .pure (List.Sublist.refl _)

/-- The names of members stand one behind the other. -/
lemma memberNames_takes : memberNames.Takes [] (·.map (·.position)) := by
  refine (accept_skips _).bind fun seen => ?_
  split
  · exact names_takes _
  · exact .pure (List.Sublist.refl _)

/-- A value of an enum stands where its name does. -/
lemma enumValue_takes : enumValue.Takes [] fun v => [v.position] := by
  refine description_skips.bind fun _ => peek_skips.bind fun t => ?_
  have named : (do let n ← name; let _ ← constDirectives; return n : Reader Ident).Takes []
      fun v => [v.position] :=
    name_takes.bind fun n => constDirectives_skips.bind fun _ => .pure (List.Sublist.refl _)
  split
  · exact Takes.throw
  · exact named

/-- The values of an enum stand one behind the other. -/
lemma enumValues_takes :
    (optionalBetween .braceL .braceR enumValue).Takes [] (·.map (·.position)) := by
  simpa only [flatMap_position] using optionalBetween_takes enumValue_takes .braceL .braceR

/-- The parts of a body stand one behind the other, by cases on the keyword. -/
lemma typeBody_takes (keyword : TypeKeyword) : (typeBody keyword).Takes [] (·.1.places) := by
  cases keyword with
  | scalar => exact constDirectives_skips.bind fun _ => .pure (List.Sublist.refl _)
  | object =>
    exact interfaceNames_takes.bind fun _ => constDirectives_skips.bind fun _ =>
      fieldNodes_takes.behind.bind fun _ => .pure (List.Sublist.refl _)
  | interface =>
    exact interfaceNames_takes.bind fun _ => constDirectives_skips.bind fun _ =>
      fieldNodes_takes.behind.bind fun _ => .pure (List.Sublist.refl _)
  | union =>
    exact constDirectives_skips.bind fun _ => memberNames_takes.bind fun _ =>
      .pure (List.Sublist.refl _)
  | enum =>
    exact constDirectives_skips.bind fun _ => enumValues_takes.bind fun _ =>
      .pure (List.Sublist.refl _)
  | input =>
    exact constDirectives_skips.bind fun _ => inputFieldNodes_takes.bind fun _ =>
      .pure (List.Sublist.refl _)

/-- The name of a type stands in front of the parts of its body. -/
lemma typeDefinition_takes («extends» : Bool) (keyword : TypeKeyword) :
    (typeDefinition «extends» keyword).Takes [] (·.places) := by
  refine advance_skips.bind fun _ => name_takes.bind fun n =>
    (typeBody_takes keyword).behind.bind fun ⟨body, some_⟩ => ?_
  dsimp only
  split
  · exact unexpected_takes.bind fun _ => .pure (List.Sublist.refl _)
  · exact .pure (List.Sublist.refl _)

/-! ## Other definitions -/

/-- A root stands where the name of its type does. -/
lemma rootNode_takes : rootNode.Takes [] fun r => [r.type.position] := by
  refine name_skips.bind fun op => ?_
  split
  · exact .throw
  · exact (expect_skips _).bind fun _ => name_takes.bind fun _ => .pure (List.Sublist.refl _)

/-- The places of roots, listed one by one. -/
lemma flatMap_type_position (roots : List RootNode) :
    (roots.flatMap fun r => [r.type.position]) = roots.map (·.type.position) :=
  List.map_eq_flatMap.symm

/-- The roots of a schema stand one behind the other. -/
lemma schemaDefinition_takes (position : Position) :
    (schemaDefinition position).Takes [] (·.places) := by
  refine advance_skips.bind fun _ => constDirectives_skips.bind fun _ =>
    (someBetween_takes rootNode_takes _ _).bind fun roots => .pure ?_
  rw [flatMap_type_position]
  exact List.Sublist.refl _

/-- So do those of an extension of the schema. -/
lemma schemaExtension_takes (position : Position) :
    (schemaExtension position).Takes [] (·.places) := by
  refine advance_skips.bind fun _ => constDirectives_skips.bind fun directives =>
    (optionalBetween_takes rootNode_takes _ _).bind fun roots => ?_
  rw [flatMap_type_position]
  split
  · exact unexpected_takes.bind fun _ => .pure (List.Sublist.refl _)
  · exact .pure (List.Sublist.refl _)

/-- A place for directives is taken from the front. -/
lemma directiveLocation_skips : directiveLocation.Skips := by
  refine name_skips.bind fun n => ?_
  split
  · exact .throw
  · exact pure_skips _

/-- The name of a directive stands in front of its arguments. -/
lemma directiveDefinition_takes : directiveDefinition.Takes [] (·.places) :=
  advance_skips.bind fun _ => (expect_skips _).bind fun _ => name_takes.bind fun _ =>
    argumentNodes_takes.behind.bind fun _ => constDirectives_skips.bind fun _ =>
      (acceptKeyword_skips _).bind fun _ => (expectKeyword_skips _).bind fun _ =>
        (separated_takes directiveLocation_skips _).skips.bind fun _ =>
          .pure (List.Sublist.refl _)

/-- So does the name of a directive that is extended. -/
lemma directiveExtension_takes : directiveExtension.Takes [] (·.places) := by
  refine advance_skips.bind fun _ => (expect_skips _).bind fun _ => name_takes.bind fun _ =>
    constDirectives_skips.bind fun directives => ?_
  split
  · exact unexpected_takes.bind fun _ => .pure (List.Sublist.refl _)
  · exact .pure (List.Sublist.refl _)

/-- The parts of an extension stand one behind the other, whatever is extended. -/
lemma extension_takes : extension.Takes [] (·.places) := by
  refine peek_skips.bind fun start => (lookAhead_skips 1).bind fun keyword => ?_
  split
  · exact advance_skips.bind fun _ => schemaExtension_takes _
  · exact advance_skips.bind fun _ => directiveExtension_takes
  · split
    · exact advance_skips.bind fun _ => typeDefinition_takes true _
    · exact .throw
  · exact .throw

/-! ## Operations and fragments -/

/-- A variable is taken from the front. -/
lemma variableDefinition_skips : variableDefinition.Skips :=
  description_skips.bind fun _ => (expect_skips _).bind fun _ => name_skips.bind fun _ =>
    (expect_skips _).bind fun _ => (typeExpr_skips maxDepth).bind fun _ =>
      defaultValue_skips.bind fun _ => constDirectives_skips.bind fun _ => pure_skips _

section Selections
variable {selections : Reader Unit} (skips : selections.Skips)
include skips

/-- A selected field is taken from the front with all it selects. -/
lemma selectedField_skips (depth : Nat) : (selectedField depth selections).Skips := by
  have behind : (do
      passedArguments false depth
      let _ ← appliedDirectives false depth
      if ← sees .braceL then selections : Reader Unit).Skips := by
    refine (passedArguments_skips false depth).bind fun _ =>
      (appliedDirectives_skips false depth).bind fun _ => (sees_skips _).bind fun seen => ?_
    split
    · exact skips
    · exact pure_skips _
  refine name_skips.bind fun _ => (accept_skips _).bind fun renamed => ?_
  split
  · exact name_skips.bind fun _ => behind
  · exact behind

/-- A selected fragment is taken from the front with all it selects. -/
lemma selectedFragment_skips (depth : Nat) : (selectedFragment depth selections).Skips := by
  refine (expect_skips _).bind fun _ => (acceptKeyword_skips _).bind fun conditional =>
    peek_skips.bind fun t => ?_
  split
  · exact advance_skips.bind fun _ => (appliedDirectives_skips false depth).bind fun _ =>
      pure_skips _
  · split
    · exact name_skips.bind fun _ => (appliedDirectives_skips false depth).bind fun _ => skips
    · exact (appliedDirectives_skips false depth).bind fun _ => skips

/-- A selection is taken from the front. -/
lemma selection_skips (depth : Nat) : (selection depth selections).Skips := by
  refine (sees_skips _).bind fun seen => ?_
  split
  · exact selectedFragment_skips skips depth
  · exact selectedField_skips skips depth

end Selections

/-- Selections are taken from the front, by induction on the levels that are left. -/
lemma selections_skips (depth : Nat) : (selections depth).Skips := by
  induction depth with
  | zero => exact tooDeep_takes
  | succ depth ih =>
    exact (between_takes (selection_skips ih depth) _ _).skips.bind fun _ => pure_skips _

/-- An operation stands at one place. -/
lemma operationDefinition_takes (position : Position) :
    (operationDefinition position).Takes [] (·.places) := by
  have behind (p : Position) : (do
      let _ ← optionalBetween .parenL .parenR variableDefinition
      let _ ← appliedDirectives false maxDepth
      selections maxDepth
      return .operation p : Reader Definition).Takes [] (·.places) :=
    (optionalBetween_takes variableDefinition_skips _ _).skips.bind fun _ =>
      (appliedDirectives_skips false maxDepth).bind fun _ =>
        (selections_skips maxDepth).bind fun _ => .pure (List.Sublist.refl _)
  refine advance_skips.bind fun _ => peek_skips.bind fun next => ?_
  split
  · exact advance_skips.bind fun _ => (pure_skips _).bind behind
  · exact (pure_skips _).bind behind

/-- A fragment stands where its name does. -/
lemma fragmentDefinition_takes : fragmentDefinition.Takes [] (·.places) := by
  have behind : (do
      let n ← name
      expectKeyword "on"
      let _ ← name
      let _ ← appliedDirectives false maxDepth
      selections maxDepth
      return .fragment n.position : Reader Definition).Takes [] (·.places) :=
    name_skips.bind fun _ => (expectKeyword_skips _).bind fun _ => name_skips.bind fun _ =>
      (appliedDirectives_skips false maxDepth).bind fun _ =>
        (selections_skips maxDepth).bind fun _ => .pure (List.Sublist.refl _)
  refine advance_skips.bind fun _ => peek_skips.bind fun t => ?_
  split
  · exact unexpected_takes.bind fun _ => behind
  · exact behind

/-! ## Documents -/

/-- The parts of whatever may have a description stand one behind the other. -/
lemma describable_takes {position : Position} {word : String} {rest : Reader Definition}
    (found : describable position word = some rest) : rest.Takes [] (·.places) := by
  unfold describable at found
  split at found
  · cases found
    exact schemaDefinition_takes position
  · cases found
    exact directiveDefinition_takes
  · cases found
    exact operationDefinition_takes position
  · cases found
    exact operationDefinition_takes position
  · cases found
    exact operationDefinition_takes position
  · cases found
    exact fragmentDefinition_takes
  · obtain ⟨keyword, -, rfl⟩ := Option.map_eq_some_iff.1 found
    exact typeDefinition_takes false keyword

/-- The parts of a definition stand one behind the other. -/
lemma definition_takes : definition.Takes [] (·.places) := by
  refine peek_skips.bind fun first => ?_
  split
  · exact (selections_skips maxDepth).bind fun _ => .pure (List.Sublist.refl _)
  · refine seesDescription_skips.bind fun described => (lookAhead_skips _).bind fun keyword => ?_
    split
    · split
      · rename_i found
        exact description_skips.bind fun _ => describable_takes found
      · split
        · exact .throw
        · split
          · exact extension_takes
          · exact unexpected_takes
    · exact .throw
    · exact .throw

/-- Definitions stand one behind the other, by induction on the fuel. -/
lemma definitions_takes (fuel : Nat) : (definitions fuel).Takes [] (·.flatMap (·.places)) := by
  induction fuel with
  | zero => exact unexpected_takes
  | succ fuel ih =>
    refine peek_skips.bind fun _ => get_skips.bind fun left => ?_
    split
    · exact .pure (List.Sublist.refl _)
    · exact definition_takes.bind fun _ => ih.behind.bind fun _ => .pure (List.Sublist.refl _)

end Reader

namespace Document

variable {d : Document} {text source : String}

/-- A document that is read from a text is in the order of the text. -/
theorem located_of_read (read : Document.read text source = .ok d) : d.Located := by
  obtain ⟨ds, definitions, eq⟩ := SchemaLint.bind_eq_ok_iff.1 read
  cases eq
  obtain ⟨-, left, definitions⟩ := Reader.read_definitions_eq_ok_iff.1 definitions
  obtain ⟨taken, eq, sub⟩ := Reader.definitions_takes _ definitions
  have tokens : (taken.map (·.position)).Sublist ((lex text).tokens.map (·.position)) := by
    have front : taken.Sublist ((lex text).tokens.filter (!·.isComment)) :=
      eq ▸ List.sublist_append_left taken left
    exact (front.trans List.filter_sublist).map _
  exact (pairwise_before_lexFrom _ _).sublist (sub.trans tokens)

end Document

end SchemaLint.Sdl

import Mathlib
import SchemaLint.Proofs.Sdl.Extent
import SchemaLint.Proofs.Sdl.Readers
import SchemaLint.Proofs.Word.Casing
import SchemaLint.Schema.Violation

/-!
# Names of a document that is read

A token is a name only if it has the shape of one, and readers take names from such tokens alone. So
all types, fields, arguments and enum values of a document that is read from a text have names of the
schema language: `Document.named_of_read`.
-/

namespace SchemaLint.Sdl

/-- A name of the schema language: a letter or an underscore, then letters, digits and underscores. -/
def IsName (s : String) : Prop := Word.hasShape isNameStart isNameContinue s.toList

instance : DecidablePred IsName := fun s =>
  inferInstanceAs (Decidable (Word.hasShape isNameStart isNameContinue s.toList = true))

/-- If the token is a name, it has the shape of one. -/
def Token.Named (t : Token) : Prop := ∀ s, t.lexeme = .name s → IsName s

/-- The field and its arguments have names. -/
structure FieldNode.Named (f : FieldNode) : Prop where
  name : IsName f.name.text
  arguments : ∀ a ∈ f.arguments, IsName a.name.text

/-- The fields and the enum values of the body have names. -/
structure TypeBody.Named (body : TypeBody) : Prop where
  fields : ∀ f ∈ body.fields, f.Named
  values : ∀ v ∈ body.values, IsName v.text

/-- If the definition is that of a type, the type and its parts have names. -/
def Definition.Named : Definition → Prop
  | type _ name body => IsName name.text ∧ body.Named
  | _ => True

/-- All types of the document and their parts have names. -/
def Document.Named (d : Document) : Prop := ∀ x ∈ d.definitions, x.Named

/-! ## Shape of a name -/

section
variable {c : Char} {s t : String}

/-- A text of the right characters is a name if it starts as one. -/
lemma isName_iff (chars : ∀ c ∈ s.toList, isNameContinue c) :
    IsName s ↔ s.toList.head?.any isNameStart := by
  rw [IsName, Word.hasShape_eq_any chars]

/-- Whatever a name may start with may stand in it. -/
lemma isNameContinue_of_isNameStart (first : isNameStart c) : isNameContinue c := by
  rw [isNameStart, Bool.or_eq_true] at first
  rw [isNameContinue, Char.isAlphanum, Bool.or_eq_true, Bool.or_eq_true]
  exact first.imp_left .inl

/-- A name has a first character, and each of its characters may stand in a name. -/
lemma IsName.exists_cons (named : IsName s) :
    ∃ c cs, s.toList = c :: cs ∧ isNameStart c ∧ ∀ d ∈ c :: cs, isNameContinue d := by
  rw [IsName] at named
  cases eq : s.toList with
  | nil =>
    rw [eq] at named
    cases named
  | cons c cs =>
    rw [eq, Word.hasShape, Bool.and_eq_true, List.all_eq_true] at named
    exact ⟨c, cs, rfl, named.1,
      List.forall_mem_cons.2 ⟨isNameContinue_of_isNameStart named.1, named.2⟩⟩

/-- Each character of a name may stand in one. -/
lemma IsName.chars (named : IsName s) : ∀ c ∈ s.toList, isNameContinue c := by
  obtain ⟨c, cs, eq, -, chars⟩ := named.exists_cons
  rwa [eq]

/-- A name is not empty. -/
lemma IsName.ne_nil (named : IsName s) : s.toList ≠ [] := by
  obtain ⟨c, cs, eq, -, -⟩ := named.exists_cons
  simp [eq]

/-- A character of a name starts one unless it is a digit. -/
lemma isNameStart_eq_not_isDigit (char : isNameContinue c) : isNameStart c = !c.isDigit := by
  rw [isNameContinue, Char.isAlphanum] at char
  rw [isNameStart]
  cases letter : c.isAlpha with
  | true => rw [Word.isDigit_eq_false_of_isAlpha letter, Bool.true_or, Bool.not_false]
  | false =>
    cases digit : c.isDigit with
    | false => simpa [letter, digit] using char
    | true =>
      refine Bool.eq_false_iff.2 fun underscore => ?_
      rw [Bool.false_or, beq_iff_eq] at underscore
      rw [underscore] at digit
      cases digit

/-- Letters may stand in names. -/
lemma isNameContinue_of_isAlpha (letter : c.isAlpha) : isNameContinue c := by
  rw [isNameContinue, Char.isAlphanum, letter, Bool.true_or, Bool.true_or]

/-- The small form of what may stand in a name may stand in one. -/
lemma isNameContinue_toLower (char : isNameContinue c) : isNameContinue c.toLower := by
  rw [isNameContinue, Bool.or_eq_true, beq_iff_eq] at char
  rcases char with alphanumeric | rfl
  · rw [isNameContinue, Char.isAlphanum, Char.isAlpha_toLower_eq_isAlpha, Word.isDigit_toLower,
      ← Char.isAlphanum, alphanumeric, Bool.true_or]
  · rfl

/-- The capital of what may stand in a name may stand in one. -/
lemma isNameContinue_toUpper (char : isNameContinue c) : isNameContinue c.toUpper := by
  rw [isNameContinue, Bool.or_eq_true, beq_iff_eq] at char
  rcases char with alphanumeric | rfl
  · rw [isNameContinue, Word.isAlphanum_toUpper, alphanumeric, Bool.true_or]
  · rfl

/-- A name goes on with any of its characters. -/
lemma IsName.append (named : IsName s) (chars : ∀ c ∈ t.toList, isNameContinue c) :
    IsName (s ++ t) := by
  have all : ∀ c ∈ (s ++ t).toList, isNameContinue c := by
    rw [String.toList_append]
    exact List.forall_mem_append.2 ⟨named.chars, chars⟩
  rw [isName_iff all, String.toList_append, List.head?_append_of_ne_nil _ named.ne_nil]
  exact (isName_iff named.chars).1 named

/-- A first part of a name is a name, if there is any. -/
lemma IsName.take (named : IsName s) {n : Nat} (pos : 0 < n) :
    IsName (String.ofList (s.toList.take n)) := by
  have chars : ∀ c ∈ (String.ofList (s.toList.take n)).toList, isNameContinue c := by
    rw [String.toList_ofList]
    exact fun c mem => named.chars c (List.mem_of_mem_take mem)
  rw [isName_iff chars, String.toList_ofList, List.head?_take, if_neg (by omega)]
  exact (isName_iff named.chars).1 named

end

/-! ## Tokens -/

section Tokens
variable {c : Char} {rest cs : List Char} {more : Nat} {l : Lexeme} {s : String} {p : Position}

/-- A name that is lexed has the shape of one. -/
lemma isName_of_step (read : step c rest = .lexeme (.name s) more) : IsName s := by
  unfold step at read
  split_ifs at read with white carriage_return comment quote quotes point digit name
  · -- a comment
    cases read
  · -- a block string
    obtain ⟨size, mapped, -⟩ := exists_of_ofResult read
    obtain ⟨r, -, eq⟩ := map_eq_ok_iff.1 mapped
    cases eq
  · -- a string
    obtain ⟨size, mapped, -⟩ := exists_of_ofResult read
    obtain ⟨r, -, eq⟩ := map_eq_ok_iff.1 mapped
    cases eq
  · -- three points
    split at read
    · cases read
    · cases read
    · split at read <;> cases read
    · cases read
  · -- a number
    obtain ⟨size, number, -⟩ := exists_of_ofResult read
    obtain ⟨_, fraction, exponent, -, -, -, eq⟩ := number_parts number
    have sort := (Prod.ext_iff.1 eq).1
    dsimp only at sort
    split_ifs at sort
  · -- a name
    cases read
    rw [IsName, String.toList_ofList, Word.hasShape, name, Bool.true_and, List.all_eq_true]
    exact fun d => List.mem_takeWhile_imp
  all_goals
    -- a punctuator
    split at read <;> cases read

/-- All names among the tokens of a text have the shape of one. -/
lemma named_of_mem_lex (text : String) : ∀ t ∈ (lex text).tokens, t.Named := by
  rw [← map_token_extents, List.forall_mem_map]
  refine forall_mem_extentsFrom fun {p c rest l more} read s eq => ?_
  cases eq
  exact isName_of_step read

end Tokens

/-! ## Readers -/

namespace Reader

variable {α β : Type} {r item : Reader α} {next : α → Reader β} {Good : α → Prop} {Good' : β → Prop}

/-- Of tokens that are named, the reader makes something good and leaves named ones. -/
def Makes (r : Reader α) (Good : α → Prop) : Prop :=
  ∀ ⦃fault? ts a rest⦄, (∀ t ∈ ts, Token.Named t) → r fault? ts = .ok (a, rest) →
    Good a ∧ ∀ t ∈ rest, t.Named

/-- What is left is a part of what was there. -/
lemma Skips.makes (skips : r.Skips) : r.Makes fun _ => True := by
  intro fault? ts a rest named read
  obtain ⟨taken, rfl, -⟩ := skips read
  exact ⟨trivial, (List.forall_mem_append.1 named).2⟩

/-- What is returned without reading is good if it is so by itself. -/
lemma Makes.pure {a : α} (good : Good a) : Makes (Pure.pure a) Good := by
  intro fault? ts b rest named read
  cases read
  exact ⟨good, named⟩

/-- A reader that fails makes nothing that is not good. -/
lemma Makes.throw {f : Fault} : Makes (throw f : Reader α) Good := by
  intro fault? ts a rest named read
  cases read

/-- Of two readers the second makes something good if it does so of whatever good the first
makes. -/
lemma Makes.bind (first : r.Makes Good) (second : ∀ a, Good a → (next a).Makes Good') :
    (r >>= next).Makes Good' := by
  intro fault? ts b rest named read
  obtain ⟨a, between, read_first, read_next⟩ := bind_eq_ok_iff.1 read
  obtain ⟨good, named⟩ := first named read_first
  exact second a good named read_next

/-- Nothing is asked of what the first reader makes. -/
lemma Skips.bind_makes (first : r.Skips) (second : ∀ a, (next a).Makes Good') :
    (r >>= next).Makes Good' :=
  first.makes.bind fun a _ => second a

/-- An unexpected token makes nothing. -/
lemma unexpected_makes : (unexpected : Reader α).Makes Good := peek_skips.bind_makes fun _ => .throw

/-- A name that is read has the shape of one. -/
lemma name_makes : name.Makes fun n => IsName n.text := by
  intro fault? ts n rest named read
  refine ⟨?_, (name_skips.makes named read).2⟩
  obtain ⟨⟨lexeme, position⟩, left, got, read⟩ := bind_eq_ok_iff.1 read
  cases lexeme with
  | name s =>
    obtain ⟨⟨⟩, left', advanced, read⟩ := bind_eq_ok_iff.1 read
    cases read
    cases ts with
    | nil => cases fault? <;> cases got
    | cons t ts =>
      cases got
      exact named _ List.mem_cons_self s rfl
  | _ => cases read

/-! ### Repetition -/

section Repetition
variable (makes : item.Makes Good)
include makes

/-- Items up to a closing token are good if each of them is, by induction on the fuel. -/
lemma untilClosed_makes (close : Punct) (fuel : Nat) :
    (untilClosed close item fuel).Makes fun xs => ∀ x ∈ xs, Good x := by
  induction fuel with
  | zero => exact .pure (List.forall_mem_nil _)
  | succ fuel ih =>
    refine (accept_skips close).bind_makes fun closed => ?_
    split
    · exact .pure (List.forall_mem_nil _)
    · exact makes.bind fun x good => ih.bind fun xs all => .pure (List.forall_mem_cons.2 ⟨good, all⟩)

/-- Items between two punctuators are good if each of them is. -/
lemma optionalBetween_makes («open» close : Punct) :
    (optionalBetween «open» close item).Makes fun xs => ∀ x ∈ xs, Good x := by
  refine (sees_skips «open»).bind_makes fun seen => ?_
  split
  · exact (expect_skips «open»).bind_makes fun _ => makes.bind fun x good =>
      bound_skips.bind_makes fun fuel => (untilClosed_makes makes close fuel).bind fun xs all =>
        .pure (List.forall_mem_cons.2 ⟨good, all⟩)
  · exact .pure (List.forall_mem_nil _)

end Repetition

/-! ### Types -/

/-- An argument has a name. -/
lemma argumentNode_makes : argumentNode.Makes fun a => IsName a.name.text :=
  description_skips.bind_makes fun _ => name_makes.bind fun _ named =>
    (expect_skips _).bind_makes fun _ => (typeExpr_skips maxDepth).bind_makes fun _ =>
      defaultValue_skips.bind_makes fun _ => constDirectives_skips.bind_makes fun _ => .pure named

/-- A field and its arguments have names. -/
lemma fieldNode_makes : fieldNode.Makes (·.Named) :=
  description_skips.bind_makes fun _ => name_makes.bind fun _ named =>
    (optionalBetween_makes argumentNode_makes _ _).bind fun _ all =>
      (expect_skips _).bind_makes fun _ => (typeExpr_skips maxDepth).bind_makes fun _ =>
        constDirectives_skips.bind_makes fun _ => .pure ⟨named, all⟩

/-- Fields and their arguments have names. -/
lemma fieldNodes_makes : fieldNodes.Makes fun fs => ∀ f ∈ fs, f.Named :=
  optionalBetween_makes fieldNode_makes _ _

/-- Input fields have names. -/
lemma inputFieldNodes_makes : inputFieldNodes.Makes fun fs => ∀ f ∈ fs, f.Named := by
  refine (optionalBetween_makes argumentNode_makes _ _).bind fun inputs all => .pure ?_
  exact List.forall_mem_map.2 fun a mem => ⟨all a mem, List.forall_mem_nil _⟩

/-- A value of an enum has a name. -/
lemma enumValue_makes : enumValue.Makes fun v => IsName v.text := by
  refine description_skips.bind_makes fun _ => peek_skips.bind_makes fun t => ?_
  have named : (do let n ← name; let _ ← constDirectives; return n : Reader Ident).Makes
      fun v => IsName v.text :=
    name_makes.bind fun n named => constDirectives_skips.bind_makes fun _ => .pure named
  split
  · exact Makes.throw
  · exact named

/-- The parts of a body have names, by cases on the keyword. -/
lemma typeBody_makes (keyword : TypeKeyword) : (typeBody keyword).Makes (·.1.Named) := by
  cases keyword with
  | scalar =>
    exact constDirectives_skips.bind_makes fun _ =>
      .pure ⟨List.forall_mem_nil _, List.forall_mem_nil _⟩
  | object =>
    exact interfaceNames_takes.skips.bind_makes fun _ => constDirectives_skips.bind_makes fun _ =>
      fieldNodes_makes.bind fun _ fields => .pure ⟨fields, List.forall_mem_nil _⟩
  | interface =>
    exact interfaceNames_takes.skips.bind_makes fun _ => constDirectives_skips.bind_makes fun _ =>
      fieldNodes_makes.bind fun _ fields => .pure ⟨fields, List.forall_mem_nil _⟩
  | union =>
    exact constDirectives_skips.bind_makes fun _ => memberNames_takes.skips.bind_makes fun _ =>
      .pure ⟨List.forall_mem_nil _, List.forall_mem_nil _⟩
  | enum =>
    exact constDirectives_skips.bind_makes fun _ =>
      (optionalBetween_makes enumValue_makes _ _).bind fun _ values =>
        .pure ⟨List.forall_mem_nil _, values⟩
  | input =>
    exact constDirectives_skips.bind_makes fun _ => inputFieldNodes_makes.bind fun _ fields =>
      .pure ⟨fields, List.forall_mem_nil _⟩

/-- A type and its parts have names. -/
lemma typeDefinition_makes («extends» : Bool) (keyword : TypeKeyword) :
    (typeDefinition «extends» keyword).Makes (·.Named) := by
  refine advance_skips.bind_makes fun _ => name_makes.bind fun n named =>
    (typeBody_makes keyword).bind fun ⟨body, some_⟩ parts => ?_
  dsimp only
  split
  · exact unexpected_makes.bind fun _ (_ : True) => .pure ⟨named, parts⟩
  · exact .pure ⟨named, parts⟩

/-! ### Other definitions -/

/-- Nothing is asked of the definition of a schema. -/
lemma schemaDefinition_makes (position : Position) :
    (schemaDefinition position).Makes (·.Named) :=
  advance_skips.bind_makes fun _ => constDirectives_skips.bind_makes fun _ =>
    (someBetween_takes rootNode_takes _ _).skips.bind_makes fun _ => .pure trivial

/-- Nothing is asked of the extension of a schema. -/
lemma schemaExtension_makes (position : Position) : (schemaExtension position).Makes (·.Named) := by
  refine advance_skips.bind_makes fun _ => constDirectives_skips.bind_makes fun directives =>
    (optionalBetween_takes rootNode_takes _ _).skips.bind_makes fun roots => ?_
  split
  · exact unexpected_makes.bind fun _ (_ : True) => .pure trivial
  · exact .pure trivial

/-- Nothing is asked of the definition of a directive. -/
lemma directiveDefinition_makes : directiveDefinition.Makes (·.Named) :=
  advance_skips.bind_makes fun _ => (expect_skips _).bind_makes fun _ =>
    name_skips.bind_makes fun _ => argumentNodes_takes.skips.bind_makes fun _ =>
      constDirectives_skips.bind_makes fun _ => (acceptKeyword_skips _).bind_makes fun _ =>
        (expectKeyword_skips _).bind_makes fun _ =>
          (separated_takes directiveLocation_skips _).skips.bind_makes fun _ => .pure trivial

/-- Nothing is asked of the extension of a directive. -/
lemma directiveExtension_makes : directiveExtension.Makes (·.Named) := by
  refine advance_skips.bind_makes fun _ => (expect_skips _).bind_makes fun _ =>
    name_skips.bind_makes fun _ => constDirectives_skips.bind_makes fun directives => ?_
  split
  · exact unexpected_makes.bind fun _ (_ : True) => .pure trivial
  · exact .pure trivial

/-- A type that is extended and its new parts have names. -/
lemma extension_makes : extension.Makes (·.Named) := by
  refine peek_skips.bind_makes fun start => (lookAhead_skips 1).bind_makes fun keyword => ?_
  split
  · exact advance_skips.bind_makes fun _ => schemaExtension_makes _
  · exact advance_skips.bind_makes fun _ => directiveExtension_makes
  · split
    · exact advance_skips.bind_makes fun _ => typeDefinition_makes true _
    · exact .throw
  · exact .throw

/-- Nothing is asked of an operation. -/
lemma operationDefinition_makes (position : Position) :
    (operationDefinition position).Makes (·.Named) := by
  have behind (p : Position) : (do
      let _ ← optionalBetween .parenL .parenR variableDefinition
      let _ ← appliedDirectives false maxDepth
      selections maxDepth
      return .operation p : Reader Definition).Makes (·.Named) :=
    (optionalBetween_takes variableDefinition_skips _ _).skips.bind_makes fun _ =>
      (appliedDirectives_skips false maxDepth).bind_makes fun _ =>
        (selections_skips maxDepth).bind_makes fun _ => .pure trivial
  refine advance_skips.bind_makes fun _ => peek_skips.bind_makes fun next => ?_
  split
  · exact advance_skips.bind_makes fun _ => (pure_skips _).bind_makes behind
  · exact (pure_skips _).bind_makes behind

/-- Nothing is asked of a fragment. -/
lemma fragmentDefinition_makes : fragmentDefinition.Makes (·.Named) := by
  have behind : (do
      let n ← name
      expectKeyword "on"
      let _ ← name
      let _ ← appliedDirectives false maxDepth
      selections maxDepth
      return .fragment n.position : Reader Definition).Makes (·.Named) :=
    name_skips.bind_makes fun _ => (expectKeyword_skips _).bind_makes fun _ =>
      name_skips.bind_makes fun _ => (appliedDirectives_skips false maxDepth).bind_makes fun _ =>
        (selections_skips maxDepth).bind_makes fun _ => .pure trivial
  refine advance_skips.bind_makes fun _ => peek_skips.bind_makes fun t => ?_
  split
  · exact unexpected_makes.bind fun _ (_ : True) => behind
  · exact behind

/-! ### Documents -/

/-- Whatever may have a description has names if it is a type. -/
lemma describable_makes {position : Position} {word : String} {rest : Reader Definition}
    (found : describable position word = some rest) : rest.Makes (·.Named) := by
  unfold describable at found
  split at found
  · cases found
    exact schemaDefinition_makes position
  · cases found
    exact directiveDefinition_makes
  · cases found
    exact operationDefinition_makes position
  · cases found
    exact operationDefinition_makes position
  · cases found
    exact operationDefinition_makes position
  · cases found
    exact fragmentDefinition_makes
  · obtain ⟨keyword, -, rfl⟩ := Option.map_eq_some_iff.1 found
    exact typeDefinition_makes false keyword

/-- A definition has names if it is that of a type. -/
lemma definition_makes : definition.Makes (·.Named) := by
  refine peek_skips.bind_makes fun first => ?_
  split
  · exact (selections_skips maxDepth).bind_makes fun _ => .pure trivial
  · refine seesDescription_skips.bind_makes fun described =>
      (lookAhead_skips _).bind_makes fun keyword => ?_
    split
    · split
      · rename_i found
        exact description_skips.bind_makes fun _ => describable_makes found
      · split
        · exact .throw
        · split
          · exact extension_makes
          · exact unexpected_makes
    · exact .throw
    · exact .throw

/-- Definitions have names as far as they are those of types, by induction on the fuel. -/
lemma definitions_makes (fuel : Nat) : (definitions fuel).Makes fun ds => ∀ x ∈ ds, x.Named := by
  induction fuel with
  | zero => exact unexpected_makes
  | succ fuel ih =>
    refine peek_skips.bind_makes fun _ => get_skips.bind_makes fun left => ?_
    split
    · exact .pure (List.forall_mem_nil _)
    · exact definition_makes.bind fun x named => ih.bind fun xs all =>
        .pure (List.forall_mem_cons.2 ⟨named, all⟩)

end Reader

/-- All types, fields, arguments and enum values of a document that is read from a text have names of
the schema language. -/
theorem Document.named_of_read {d : Document} {text source : String}
    (read : Document.read text source = .ok d) : d.Named := by
  obtain ⟨ds, definitions, eq⟩ := SchemaLint.bind_eq_ok_iff.1 read
  cases eq
  obtain ⟨-, left, definitions⟩ := Reader.read_definitions_eq_ok_iff.1 definitions
  refine (Reader.definitions_makes _ (fun t mem => ?_) definitions).1
  exact named_of_mem_lex text t (List.mem_of_mem_filter mem)

end SchemaLint.Sdl

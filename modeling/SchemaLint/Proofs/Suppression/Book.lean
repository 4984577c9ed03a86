import Mathlib
import SchemaLint.Proofs.NameMap
import SchemaLint.Suppression.Book

/-!
# What a book of suppressions silences

A request that enters something into a book adds to what the book silences just what it would make an
empty book silence. So a book silences what one of the requests before would have silenced alone,
whatever their order and number, and questions do not matter: `Book.serveAll_silences`.
-/

namespace SchemaLint.Suppression

variable {κ : Type} [DecidableEq κ] {rule : String} {rules : List String} {noted : NameSet}

namespace Book

/-! ## Shelves -/

/-- An empty set lists no rule. -/
lemma lists_empty : lists .empty rule = false := rfl

/-- A set to which rules are added lists what it listed and what they list. -/
lemma lists_add : lists (noted.add rules) rule = (lists noted rule || listsRule rules rule) := by
  have mem (x : String) : x ∈ (noted.add rules).names ↔ x ∈ noted.names ∨ x ∈ rules :=
    NameSet.mem_names_add
  rw [Bool.eq_iff_iff]
  simp only [lists, listsRule, Bool.or_eq_true, List.contains_iff_mem, mem]
  tauto

/-- A set of rules lists what they list. -/
lemma lists_ofNames : lists (.ofNames rules) rule = listsRule rules rule := by
  have mem (x : String) : x ∈ (NameSet.ofNames rules).names ↔ x ∈ rules := NameSet.mem_names_ofNames
  rw [Bool.eq_iff_iff]
  simp only [lists, listsRule, Bool.or_eq_true, List.contains_iff_mem, mem]

/-- What is noted under a key is noted in the first entry of the key. -/
lemma get_cons (k k' : κ) (entries : List (κ × NameSet)) :
    (Shelf.mk ((k, noted) :: entries)).get k' = if k = k' then noted else (Shelf.mk entries).get k' := by
  unfold Shelf.get
  by_cases same : k = k'
  · simp [same]
  · simp [same]

/-- More rules under a key are found under it, and nothing else changes. -/
lemma lists_get_add (s : Shelf κ) (k k' : κ) :
    lists ((s.add k rules).get k') rule =
      (lists (s.get k') rule || k == k' && listsRule rules rule) := by
  obtain ⟨entries⟩ := s
  rw [Shelf.add]
  induction entries with
  | nil =>
    rw [Shelf.addTo, get_cons]
    by_cases same : k = k'
    · simp [same, lists_ofNames, Shelf.get, lists_empty]
    · simp [same, Shelf.get, lists_empty]
  | cons e entries ih =>
    obtain ⟨k₀, noted⟩ := e
    rw [Shelf.addTo]
    split
    · rename_i found
      subst found
      rw [get_cons, get_cons]
      by_cases same : k₀ = k'
      · simp [same, lists_add]
      · simp [same]
    · rename_i other
      rw [get_cons, get_cons]
      by_cases same : k₀ = k'
      · subst same
        simp [Ne.symm other]
      · rw [if_neg same, if_neg same]
        exact ih

/-- More rules under a key are listed for its property, and nothing else changes. -/
lemma any_add (s : Shelf κ) (k : κ) (p : κ → Bool) :
    ((s.add k rules).entries.any fun e => lists e.2 rule && p e.1) =
      ((s.entries.any fun e => lists e.2 rule && p e.1) || listsRule rules rule && p k) := by
  obtain ⟨entries⟩ := s
  rw [Shelf.add]
  induction entries with
  | nil => simp [Shelf.addTo, lists_ofNames]
  | cons e entries ih =>
    obtain ⟨k₀, noted⟩ := e
    rw [Shelf.addTo]
    split
    · rename_i found
      subst found
      rw [List.any_cons, List.any_cons, lists_add, Bool.and_or_distrib_right, Bool.or_right_comm]
    · rw [List.any_cons, ih, List.any_cons, Bool.or_assoc]

/-! ## Requests -/

variable {b : Book} {d : Diagnostic}

/-- Nothing is noted on an empty shelf. -/
lemma get_empty (k : κ) : Shelf.empty.get k = .empty := rfl

/-- An empty book silences nothing. -/
lemma silences_empty : empty.silences d = false := by
  simp only [silences, empty, get_empty, lists_empty]
  simp [Shelf.empty]

/-- A directive adds to a book what it silences alone. -/
lemma silences_enter (directive : Directive) (line previous : Nat) :
    (b.enter directive line previous).silences d =
      (b.silences d || (empty.enter directive line previous).silences d) := by
  unfold enter
  split
  · simp only [silences, empty, lists_add, lists_empty, get_empty]
    grind [Shelf.empty]
  · split
    · simp only [silences, empty, lists_get_add, lists_empty, get_empty]
      grind [Shelf.empty]
    · simp only [silences, empty, lists_get_add, lists_empty, get_empty]
      grind [Shelf.empty]

/-- What is entered for a path silences what it would silence alone, besides the rest. -/
lemma silences_enterPath (rule pattern : String) :
    (b.enterPath rule pattern).silences d =
      (b.silences d || (empty.enterPath rule pattern).silences d) := by
  simp only [silences, enterPath, empty, any_add _ _ (Text.Glob.isMatch · d.location.path),
    lists_empty, get_empty]
  grind [Shelf.empty]

/-- What is entered for a rule silences what it would silence alone, besides the rest. -/
lemma silences_enterRule (rule : String) :
    (b.enterRule rule).silences d = (b.silences d || (empty.enterRule rule).silences d) := by
  simp only [silences, enterRule, empty, lists_add, lists_empty, get_empty]
  grind [Shelf.empty]

/-- The directives of tokens add to a book what they silence alone. -/
lemma silences_enterTokens (previous : Nat) (ts : List Sdl.Token) :
    (b.enterTokens previous ts).1.silences d =
      (b.silences d || (empty.enterTokens previous ts).1.silences d) := by
  induction ts generalizing b previous with
  | nil => rw [enterTokens, enterTokens, silences_empty, Bool.or_false]
  | cons t ts ih =>
    rw [enterTokens, enterTokens]
    dsimp only
    split
    · split
      · -- a directive, and the tokens behind it
        rw [ih, silences_enter, Bool.or_assoc, ← ih]
      · exact ih _
    · exact ih _

/-- Questions leave a book as it is. -/
lemma serve_eq_self {r : Request} (asks : r.enters = false) : (b.serve r).1 = b := by
  cases r with
  | enterDocument _ => cases asks
  | enterPath _ _ => cases asks
  | enterRule _ => cases asks
  | silences _ => rfl
  | filter _ => rfl
  | isInForce => rfl

/-- A request adds to a book what it makes an empty book silence. -/
lemma silences_serve (r : Request) :
    (b.serve r).1.silences d = (b.silences d || (empty.serve r).1.silences d) := by
  cases r with
  | enterDocument document =>
    show (b.enterDocument document).1.silences d =
      (b.silences d || (empty.enterDocument document).1.silences d)
    unfold enterDocument
    cases document.origin with
    | none => rw [silences_empty, Bool.or_false]
    | some origin => exact silences_enterTokens 0 origin.tokens
  | enterPath rule pattern => exact silences_enterPath rule pattern
  | enterRule rule => exact silences_enterRule rule
  | silences _ => rw [serve_eq_self rfl, serve_eq_self rfl, silences_empty, Bool.or_false]
  | filter _ => rw [serve_eq_self rfl, serve_eq_self rfl, silences_empty, Bool.or_false]
  | isInForce => rw [serve_eq_self rfl, serve_eq_self rfl, silences_empty, Bool.or_false]

/-- After some requests a book silences what it silenced before, and what one of the requests alone
would have made an empty book silence. -/
lemma silences_serveAll (rs : List Request) :
    (b.serveAll rs).1.silences d =
      (b.silences d || rs.any fun r => (empty.serve r).1.silences d) := by
  induction rs generalizing b with
  | nil => exact (Bool.or_false _).symm
  | cons r rs ih =>
    show ((b.serve r).1.serveAll rs).1.silences d = _
    rw [ih, silences_serve, List.any_cons, Bool.or_assoc]

/-! ## Suppressions in force -/

/-- A directive silences in a book what it silences among suppressions, if its line is known. -/
lemma silences_empty_enter (directive : Directive) {line : Nat} (located : line ≠ 0)
    (previous : Nat) :
    (empty.enter directive line previous).silences d =
      (ofDirective directive line previous).covers d := by
  unfold enter ofDirective
  split
  · simp only [silences, empty, lists_add, lists_empty, get_empty, covers]
    simp [Shelf.empty]
  · have behind : (d.location.line != 0 && (line : Int) == d.location.line) =
        (d.location.line == line) := by
      rw [Bool.eq_iff_iff]
      simp only [Bool.and_eq_true, bne_iff_ne, beq_iff_eq]
      omega
    have below : (d.location.line != 0 && (line : Int) == d.location.line - 1) =
        (d.location.line == ((line + 1 : Nat) : Int)) := by
      rw [Bool.eq_iff_iff]
      simp only [Bool.and_eq_true, bne_iff_ne, beq_iff_eq]
      omega
    split
    · simp only [silences, empty, lists_get_add, lists_empty, get_empty, covers, ← behind]
      simp [Shelf.empty, Bool.and_assoc]
    · simp only [silences, empty, lists_get_add, lists_empty, get_empty, covers, ← below]
      simp [Shelf.empty, Bool.and_assoc]

/-- What is entered for a path silences the rule on that path. -/
lemma silences_empty_enterPath (rule pattern : String) :
    (empty.enterPath rule pattern).silences d = (onPath pattern [rule]).covers d := by
  simp only [silences, enterPath, empty, any_add _ _ (Text.Glob.isMatch · d.location.path),
    lists_empty, get_empty, covers]
  simp [Shelf.empty]

/-- The directives of tokens silence in a book what they silence among suppressions. -/
lemma silences_empty_enterTokens (previous : Nat) {ts : List Sdl.Token}
    (located : ∀ t ∈ ts, t.position.line ≠ 0) :
    (empty.enterTokens previous ts).1.silences d =
      Suppressions.silences (ofTokens previous ts) d := by
  induction ts generalizing previous with
  | nil => exact silences_empty
  | cons t ts ih =>
    obtain ⟨here, behind⟩ := List.forall_mem_cons.1 located
    cases lexeme : t.lexeme with
    | comment text =>
      cases found : Directive.ofComment? text with
      | some directive =>
        simp only [enterTokens, ofTokens, lexeme, found]
        rw [silences_enterTokens, silences_empty_enter directive here, ih _ behind]
        rfl
      | none =>
        simp only [enterTokens, ofTokens, lexeme, found]
        exact ih _ behind
    | _ =>
      simp only [enterTokens, ofTokens, lexeme]
      exact ih _ behind

/-- Requests that enter nothing can be left out. -/
lemma serveAll_filter_enters (rs : List Request) :
    (b.serveAll (rs.filter (·.enters))).1 = (b.serveAll rs).1 := by
  induction rs generalizing b with
  | nil => rfl
  | cons r rs ih =>
    have serveAll_cons (rs : List Request) : (b.serveAll (r :: rs)).1 = ((b.serve r).1.serveAll rs).1 :=
      rfl
    cases enters : r.enters with
    | true => rw [List.filter_cons_of_pos enters, serveAll_cons, serveAll_cons, ih]
    | false =>
      rw [List.filter_cons_of_neg (by simp [enters]), serveAll_cons, serve_eq_self enters, ih]

/-- A book silences after some requests what one of those that enter something silences alone. -/
lemma silences_serveAll_empty_iff (rs : List Request) :
    (empty.serveAll rs).1.silences d ↔
      ∃ r ∈ rs, r.enters ∧ (empty.serve r).1.silences d := by
  rw [silences_serveAll, silences_empty, Bool.false_or, List.any_eq_true]
  refine exists_congr fun r => and_congr_right fun _ => (and_iff_right_of_imp fun silences => ?_).symm
  cases enters : r.enters with
  | true => rfl
  | false =>
    rw [serve_eq_self enters, silences_empty] at silences
    cases silences

/-- A book that counts as empty silences nothing. -/
lemma silences_of_isEmpty (nothing : b.isEmpty) : b.silences d = false := by
  obtain ⟨⟨trailing⟩, ⟨leading⟩, ⟨patterns⟩, everywhere, sorted⟩ := b
  simp only [isEmpty, NameMap.isEmpty, Bool.and_eq_true, List.isEmpty_iff] at nothing
  obtain ⟨⟨⟨rfl, rfl⟩, rfl⟩, rfl⟩ := nothing
  exact silences_empty

/-- A book keeps what it does not silence, and counts what it does. -/
lemma filter_eq (b : Book) (ds : List Diagnostic) :
    b.filter ds = (ds.filter (!b.silences ·), ds.countP b.silences) := by
  induction ds with
  | nil => rfl
  | cons d ds ih =>
    rw [filter, ih]
    cases silenced : b.silences d with
    | true => simp [silenced]
    | false => simp [silenced]

/-- What a book silences depends only on which requests entered something, in whatever order and how
often, and grows with every request; questions do not change the book. A book in which nothing was
entered silences nothing, and filtering keeps in order what is not silenced and counts the rest. -/
theorem serveAll_silences :
    (∀ rs rs', (∀ r : Request, r.enters → (r ∈ rs ↔ r ∈ rs')) →
      ∀ d, (empty.serveAll rs).1.silences d = (empty.serveAll rs').1.silences d) ∧
    (∀ (b : Book) rs d, b.silences d → (b.serveAll rs).1.silences d) ∧
    (∀ (b : Book) rs, (b.serveAll (rs.filter (·.enters))).1 = (b.serveAll rs).1) ∧
    (∀ b : Book, b.isEmpty → ∀ d, b.silences d = false) ∧
    (∀ (b : Book) ds, (b.filter ds).1 = ds.filter (!b.silences ·) ∧
      (b.filter ds).1.length + (b.filter ds).2 = ds.length) := by
  refine ⟨?_, ?_, fun b => serveAll_filter_enters, fun b nothing d => silences_of_isEmpty nothing, ?_⟩
  · intro rs rs' same d
    rw [Bool.eq_iff_iff, silences_serveAll_empty_iff, silences_serveAll_empty_iff]
    refine exists_congr fun r => ?_
    cases enters : r.enters with
    | true => rw [same r enters]
    | false => simp
  · intro b rs d silenced
    rw [silences_serveAll, silenced, Bool.true_or]
  · intro b ds
    rw [filter_eq, List.countP_eq_length_filter, Nat.add_comm]
    exact ⟨rfl, (List.length_eq_length_filter_add _).symm⟩

/-- A document with a directive behind a name and one on a line of its own. -/
def directed : Sdl.Document where
  definitions := [.type false ⟨"user", ⟨1, 8⟩⟩ .scalar]
  origin := some ⟨"user.graphql", [⟨.name "scalar", ⟨1, 1⟩⟩, ⟨.name "user", ⟨1, 8⟩⟩,
    ⟨.comment " gqlstyle-ignore TypeCasing", ⟨1, 13⟩⟩, ⟨.comment " gqlstyle-ignore", ⟨2, 1⟩⟩]⟩

/-- A diagnostic on the first line of `directed`. -/
def onFirstLine : Diagnostic := ⟨"TypeCasing", .error, "", ⟨"user", none, none, 1, 8⟩, none⟩

/-- Requests in another order, repeated, and with a question among them. -/
theorem serveAll_silences_repeated :
    let rs : List Request :=
      [.enterDocument directed, .silences onFirstLine, .enterPath "*" "Legacy*"]
    let rs' : List Request :=
      [.enterPath "*" "Legacy*", .enterDocument directed, .enterPath "*" "Legacy*"]
    ((∀ r : Request, r.enters → (r ∈ rs ↔ r ∈ rs')) ∧
      (∀ d, (empty.serveAll rs).1.silences d = (empty.serveAll rs').1.silences d)) ∧
    ((empty.enterDocument directed).1.silences onFirstLine ∧
      ((empty.enterDocument directed).1.serveAll rs').1.silences onFirstLine) ∧
    (empty.serveAll (rs.filter (·.enters))).1 = (empty.serveAll rs).1 ∧
    (empty.isEmpty ∧ empty.silences onFirstLine = false) ∧
    ((empty.filter [onFirstLine]).1 = [onFirstLine].filter (!empty.silences ·) ∧
      (empty.filter [onFirstLine]).1.length + (empty.filter [onFirstLine]).2 = 1) := by
  intro rs rs'
  have same : ∀ r : Request, r.enters → (r ∈ rs ↔ r ∈ rs') := by
    intro r enters
    simp only [rs, rs', List.mem_cons, List.not_mem_nil, or_false]
    cases r with
    | silences _ => cases enters
    | _ => simp [or_comm]
  have silenced : (empty.enterDocument directed).1.silences onFirstLine := by decide +kernel
  obtain ⟨depends, grows, asks, nothing, filters⟩ := serveAll_silences
  exact ⟨⟨same, depends rs rs' same⟩, ⟨silenced, grows _ rs' _ silenced⟩, asks empty rs,
    ⟨rfl, nothing empty rfl onFirstLine⟩, filters empty [onFirstLine]⟩

end Book

end SchemaLint.Suppression

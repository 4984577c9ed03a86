import Mathlib
import SchemaLint.Proofs.Catalog.Rules

/-!
# Changes of catalogs

What a change makes of a catalog, and when it is refused. A call that makes a change has written
nothing yet where it is refused: `Change.call_run`. However often a catalog is changed, with refused
calls in between, its rules have different ids and stand in the order in which they were registered
last, and only rules that it has are disabled. A rule that is registered is therefore enabled, even if
one of its id was disabled before it was taken out: `Catalog.afterAll_coherent`.
-/

namespace SchemaLint.Catalog

variable {c c' : Catalog} {x : Change} {fault : CatalogFault}

/-- A catalog has a rule of an id if the id is one of its names. -/
lemma contains_iff {id : String} : c.contains id ↔ id ∈ c.names := by simp [contains]

/-! ## One change -/

/-- What a change makes of a catalog. -/
inductive Makes (c : Catalog) : Change → Catalog → Prop
  | register {rule} :
    rule.id ∉ c.names →
    Makes c (.register rule) ⟨c.rules ++ [rule], c.disabled⟩
  | unregister {id} :
    Makes c (.unregister id) ⟨c.rules.filter (·.id ≠ id), c.disabled.filter (· ≠ id)⟩
  | disable {id} :
    id ∈ c.names →
    Makes c (.disable id) ⟨c.rules, id :: c.disabled.filter (· ≠ id)⟩
  | enable {id} :
    Makes c (.enable id) ⟨c.rules, c.disabled.filter (· ≠ id)⟩
  | validate {setting ids} :
    (∀ id ∈ ids, id ∈ c.names) →
    Makes c (.validate setting ids) c

/-- Why a catalog refuses a change: a rule of the id is there already, or an id is unknown, of several
the first. -/
inductive Refuses (c : Catalog) : Change → CatalogFault → Prop
  | register {rule} :
    rule.id ∈ c.names →
    Refuses c (.register rule) (.alreadyRegistered rule.id)
  | disable {id} :
    id ∉ c.names →
    Refuses c (.disable id) (.unknownRule (c.unknownRule id "rule"))
  | validate {setting known id rest} :
    (∀ i ∈ known, i ∈ c.names) → id ∉ c.names →
    Refuses c (.validate setting (known ++ id :: rest)) (.unknownRule (c.unknownRule id setting))

/-- The first of several ids that is unknown is told. -/
lemma validate_eq_error_iff {setting : String} {ids : List String} {p : Problem} :
    c.validate setting ids = .error p ↔
      ∃ known id rest, ids = known ++ id :: rest ∧ (∀ i ∈ known, i ∈ c.names) ∧ id ∉ c.names ∧
        p = c.unknownRule id setting := by
  constructor
  · intro refused
    unfold validate at refused
    split at refused
    · rename_i id found
      cases refused
      obtain ⟨unknown, known, rest, eq, before⟩ := List.find?_eq_some_iff_append.1 found
      refine ⟨known, id, rest, eq, ?_, ?_, rfl⟩
      · intro i mem
        simpa [contains] using before i mem
      · simpa [contains] using unknown
    · cases refused
  · rintro ⟨known, id, rest, rfl, before, unknown, rfl⟩
    have found : (known ++ id :: rest).find? (!c.contains ·) = some id := by
      refine List.find?_eq_some_iff_append.2 ⟨?_, known, rest, rfl, ?_⟩
      · simpa [contains] using unknown
      · intro i mem
        simpa [contains] using before i mem
    rw [validate, found]

/-- A change that can be made is made. -/
lemma Makes.apply_eq (makes : c.Makes x c') : c.apply x = .ok c' := by
  cases makes with
  | register fresh => exact if_neg (mt contains_iff.1 fresh)
  | unregister => rfl
  | @disable id known =>
    have valid : c.validate "rule" [id] = .ok () :=
      validate_eq_ok_iff.2 (List.forall_mem_singleton.2 known)
    rw [apply, Catalog.disable, valid]
  | enable => rfl
  | validate known => rw [apply, validate_eq_ok_iff.2 known]

/-- A change that a catalog refuses fails by what it is refused for. -/
lemma Refuses.apply_eq (refuses : c.Refuses x fault) : c.apply x = .error fault := by
  cases refuses with
  | register known => exact if_pos (contains_iff.2 known)
  | @disable id unknown =>
    have refused : c.validate "rule" [id] = .error (c.unknownRule id "rule") :=
      validate_eq_error_iff.2 ⟨[], id, [], rfl, List.forall_mem_nil _, unknown, rfl⟩
    rw [apply, Catalog.disable, refused]
  | @validate setting known id rest before unknown =>
    have refused : c.validate setting (known ++ id :: rest) = .error (c.unknownRule id setting) :=
      validate_eq_error_iff.2 ⟨known, id, rest, rfl, before, unknown, rfl⟩
    rw [apply, refused]

/-- A change is either made or refused. -/
lemma makes_or_refuses (c : Catalog) (x : Change) :
    (∃ c', c.Makes x c') ∨ ∃ fault, c.Refuses x fault := by
  cases x with
  | register rule =>
    by_cases known : rule.id ∈ c.names
    · exact .inr ⟨_, .register known⟩
    · exact .inl ⟨_, .register known⟩
  | unregister id => exact .inl ⟨_, .unregister⟩
  | disable id =>
    by_cases known : id ∈ c.names
    · exact .inl ⟨_, .disable known⟩
    · exact .inr ⟨_, .disable known⟩
  | enable id => exact .inl ⟨_, .enable⟩
  | validate setting ids =>
    cases valid : c.validate setting ids with
    | ok _ => exact .inl ⟨_, .validate (validate_eq_ok_iff.1 valid)⟩
    | error p =>
      obtain ⟨known, id, rest, rfl, before, unknown, -⟩ := validate_eq_error_iff.1 valid
      exact .inr ⟨_, .validate before unknown⟩

/-! ## Calls -/

/-- A call on a catalog. What it has written before it is refused stays. -/
abbrev Call := ExceptT CatalogFault (StateM Catalog) Unit

/-- A call that is refused if the catalog does not have a rule of the id. -/
def checkId (setting id : String) : Call := do
  let c ← get
  if !c.contains id then throw (.unknownRule (c.unknownRule id setting))

/-- A call that is refused if the catalog has a rule of the id. -/
def checkFresh (id : String) : Call := do
  let c ← get
  if c.contains id then throw (.alreadyRegistered id)

/-- The call that makes a change, with its checks and writes in order. -/
def Change.call : Change → Call
  | .register rule => do
    checkFresh rule.id
    modify fun c => { c with rules := c.rules ++ [rule] }
  | .unregister id => do
    modify fun c => { c with rules := c.rules.filter (·.id ≠ id) }
    modify fun c => { c with disabled := c.disabled.filter (· ≠ id) }
  | .disable id => do
    checkId "rule" id
    modify fun c => { c with disabled := id :: c.disabled.filter (· ≠ id) }
  | .enable id => modify fun c => { c with disabled := c.disabled.filter (· ≠ id) }
  | .validate setting ids => ids.forM (checkId setting)

/-- Of two calls the second is made on the catalog that the first leaves behind, unless this is
refused. -/
lemma Call.bind_run (first : Call) (next : Unit → Call) (c : Catalog) :
    (first >>= next).run.run c =
      match first.run.run c with
      | (.ok (), c') => (next ()).run.run c'
      | (.error fault, c') => (.error fault, c') := by
  have run : (first >>= next).run.run c =
      ExceptT.bindCont next (first.run.run c).1 (first.run.run c).2 := rfl
  rw [run]
  obtain ⟨_ | _, _⟩ := first.run.run c <;> rfl

/-- An unknown id is refused, and the catalog stays as it is. -/
lemma checkId_run (setting id : String) (c : Catalog) :
    (checkId setting id).run.run c = ((c.validate setting [id]).mapError .unknownRule, c) := by
  have run : (checkId setting id).run.run c = (if !c.contains id then
      throw (.unknownRule (c.unknownRule id setting)) else pure () : Call).run.run c := rfl
  rw [run, validate, List.find?_singleton]
  cases c.contains id <;> rfl

/-- A known id is refused, and the catalog stays as it is. -/
lemma checkFresh_run (id : String) (c : Catalog) :
    (checkFresh id).run.run c =
      (if c.contains id then .error (.alreadyRegistered id) else .ok (), c) := by
  have run : (checkFresh id).run.run c = (if c.contains id then
      throw (.alreadyRegistered id) else pure () : Call).run.run c := rfl
  rw [run]
  cases c.contains id <;> rfl

/-- Several ids are checked one after the other, by induction on them. -/
lemma forM_checkId_run (setting : String) (ids : List String) (c : Catalog) :
    (ids.forM (checkId setting)).run.run c =
      ((c.validate setting ids).mapError .unknownRule, c) := by
  induction ids with
  | nil => rfl
  | cons id ids ih =>
    rw [List.forM, Call.bind_run, checkId_run, validate, validate, List.find?_cons, List.find?_cons]
    cases known : c.contains id with
    | true => exact ih
    | false => rfl

/-- The call that makes a change comes to what the change makes of the catalog, or leaves it alone. -/
lemma Change.call_run (x : Change) (c : Catalog) :
    x.call.run.run c =
      match c.apply x with
      | .ok c' => (.ok (), c')
      | .error fault => (.error fault, c) := by
  cases x with
  | register rule =>
    rw [call, Call.bind_run, checkFresh_run, apply, Catalog.register]
    cases c.contains rule.id <;> rfl
  | unregister id => rfl
  | disable id =>
    rw [call, Call.bind_run, checkId_run, apply, Catalog.disable]
    cases c.validate "rule" [id] <;> rfl
  | enable id => rfl
  | validate setting ids =>
    rw [call, forM_checkId_run, apply]
    cases c.validate setting ids <;> rfl

/-- The call of a change that can be made makes it. -/
lemma Makes.call_run (makes : c.Makes x c') : x.call.run.run c = (.ok (), c') := by
  rw [Change.call_run, makes.apply_eq]

/-- A call is refused before it writes anything. -/
lemma Refuses.call_run (refuses : c.Refuses x fault) : x.call.run.run c = (.error fault, c) := by
  rw [Change.call_run, refuses.apply_eq]

/-! ## Many changes -/

/-- The catalog behind the call that makes a change, whether it is refused or not. -/
def after (c : Catalog) (x : Change) : Catalog := (x.call.run.run c).2

/-- What is left behind by a change that can be made. -/
lemma Makes.after_eq (makes : c.Makes x c') : c.after x = c' := by
  rw [after, makes.call_run]

/-- A change that is refused leaves the catalog as it was. -/
lemma Refuses.after_eq (refuses : c.Refuses x fault) : c.after x = c := by
  rw [after, refuses.call_run]

/-- A call that is not refused makes its change. -/
lemma makes_of_call (made : (x.call.run.run c).1 = .ok ()) : c.Makes x (c.after x) := by
  obtain ⟨c', makes⟩ | ⟨fault, refuses⟩ := c.makes_or_refuses x
  · rw [makes.after_eq]
    exact makes
  · rw [refuses.call_run] at made
    cases made

/-- A call is refused if the catalog refuses its change. -/
lemma call_refused_iff : (x.call.run.run c).1 = .error fault ↔ c.Refuses x fault := by
  constructor
  · intro refused
    obtain ⟨c', makes⟩ | ⟨fault', refuses⟩ := c.makes_or_refuses x
    · rw [makes.call_run] at refused
      cases refused
    · rw [refuses.call_run] at refused
      cases refused
      exact refuses
  · intro refuses
    rw [refuses.call_run]

/-- The catalog behind some changes. -/
def afterAll (c : Catalog) (xs : List Change) : Catalog := xs.foldl after c

/-- The id of the rule that a change registers, unless it is refused or of another sort. -/
def registered? (c : Catalog) : Change → Option String
  | .register rule => if c.contains rule.id then none else some rule.id
  | _ => none

/-- The ids of the rules that changes register, in order. -/
def registrations (c : Catalog) : List Change → List String
  | [] => []
  | x :: xs => (c.registered? x).toList ++ (c.after x).registrations xs

/-- A change that is refused registers nothing. -/
lemma Refuses.registered?_eq (refuses : c.Refuses x fault) : c.registered? x = none := by
  cases refuses with
  | register known => rw [registered?, if_pos (contains_iff.2 known)]
  | disable _ => rfl
  | validate _ _ => rfl

/-- What holds of a catalog all along, of which the rules with the ids `history` have been registered
one after the other: ids are different, only rules of the catalog are disabled, and the rules stand in
the order in which they were registered last. -/
structure Coherent (c : Catalog) (history : List String) : Prop where
  distinct : c.names.Nodup
  disabled : ∀ id ∈ c.disabled, id ∈ c.names
  inOrder : c.names.Sublist history.dedup

/-- What is put behind a list is the last of it, also among the last occurrences. -/
lemma concat_sublist_dedup {ids history : List String} {id : String}
    (sub : ids.Sublist history.dedup) (fresh : id ∉ ids) :
    (ids ++ [id]).Sublist (history ++ [id]).dedup := by
  induction history generalizing ids with
  | nil =>
    rw [List.dedup_nil, List.sublist_nil] at sub
    rw [sub]
    exact List.Sublist.refl _
  | cons i history ih =>
    rw [List.cons_append]
    by_cases later : i ∈ history
    · rw [List.dedup_cons_of_mem later] at sub
      rw [List.dedup_cons_of_mem (List.mem_append_left _ later)]
      exact ih sub fresh
    · rw [List.dedup_cons_of_notMem later] at sub
      by_cases same : i = id
      · rw [List.dedup_cons_of_mem (by simp [same])]
        cases sub with
        | cons _ sub => exact ih sub fresh
        | cons_cons _ sub => exact absurd (same ▸ List.mem_cons_self) fresh
      · rw [List.dedup_cons_of_notMem (by simp [later, same])]
        cases sub with
        | cons _ sub => exact (ih sub fresh).cons i
        | cons_cons _ sub => exact (ih sub (List.not_mem_of_not_mem_cons fresh)).cons_cons i

/-- A rule is taken out of the names with the catalog. -/
lemma names_filter (c : Catalog) (id : String) (disabled : List String) :
    (Catalog.mk (c.rules.filter (·.id ≠ id)) disabled).names = c.names.filter (· ≠ id) := by
  rw [names, names, List.filter_map]
  rfl

/-- A change that is made keeps a catalog coherent. -/
lemma Makes.coherent {history : List String} (makes : c.Makes x c')
    (coherent : c.Coherent history) : c'.Coherent (history ++ (c.registered? x).toList) := by
  obtain ⟨distinct, disabled, inOrder⟩ := coherent
  cases makes with
  | @register rule fresh =>
    have names : (Catalog.mk (c.rules ++ [rule]) c.disabled).names = c.names ++ [rule.id] :=
      List.map_append
    have registered : c.registered? (.register rule) = some rule.id :=
      if_neg (mt contains_iff.1 fresh)
    rw [registered]
    refine ⟨?_, ?_, ?_⟩
    · rw [names]
      exact List.nodup_append'.2 ⟨distinct, List.nodup_singleton _,
        List.disjoint_singleton.2 fresh⟩
    · intro id mem
      rw [names]
      exact List.mem_append_left _ (disabled id mem)
    · rw [names]
      exact concat_sublist_dedup inOrder fresh
  | @unregister id =>
    show Coherent _ (history ++ [])
    rw [List.append_nil]
    refine ⟨?_, ?_, ?_⟩
    · rw [names_filter]
      exact distinct.filter _
    · intro i mem
      obtain ⟨mem, ne⟩ := List.mem_filter.1 mem
      rw [names_filter]
      exact List.mem_filter.2 ⟨disabled i mem, ne⟩
    · rw [names_filter]
      exact List.filter_sublist.trans inOrder
  | disable known =>
    show Coherent _ (history ++ [])
    rw [List.append_nil]
    refine ⟨distinct, ?_, inOrder⟩
    rw [List.forall_mem_cons]
    exact ⟨known, fun i mem => disabled i (List.mem_of_mem_filter mem)⟩
  | enable =>
    show Coherent _ (history ++ [])
    rw [List.append_nil]
    exact ⟨distinct, fun i mem => disabled i (List.mem_of_mem_filter mem), inOrder⟩
  | validate _ =>
    show Coherent _ (history ++ [])
    rw [List.append_nil]
    exact ⟨distinct, disabled, inOrder⟩

/-- One change keeps what holds of a catalog all along. -/
lemma Coherent.after {history : List String} (coherent : c.Coherent history) (x : Change) :
    (c.after x).Coherent (history ++ (c.registered? x).toList) := by
  obtain ⟨c', makes⟩ | ⟨fault, refuses⟩ := c.makes_or_refuses x
  · rw [makes.after_eq]
    exact makes.coherent coherent
  · rw [refuses.after_eq, refuses.registered?_eq, Option.toList_none, List.append_nil]
    exact coherent

/-- Changes keep a catalog coherent, whether they are refused or not. -/
lemma Coherent.afterAll {history : List String} (coherent : c.Coherent history)
    (xs : List Change) : (c.afterAll xs).Coherent (history ++ c.registrations xs) := by
  induction xs generalizing c history with
  | nil =>
    rw [registrations, List.append_nil]
    exact coherent
  | cons x xs ih =>
    rw [registrations, ← List.append_assoc]
    exact ih (coherent.after x)

/-! ## What a coherent catalog tells -/

section Coherent
variable {history : List String}

/-- An id has the place in the order at which it stands among the names. -/
lemma mem_order_iff {id : String} {i : Nat} : (id, i) ∈ c.order ↔ c.names[i]? = some id :=
  List.mem_zipIdx_iff_getElem?

/-- Each id has one place in the order. -/
lemma Coherent.existsUnique_place (coherent : c.Coherent history) {id : String}
    (mem : id ∈ c.names) : ∃! i, (id, i) ∈ c.order := by
  obtain ⟨i, found⟩ := List.mem_iff_getElem?.1 mem
  refine ⟨i, mem_order_iff.2 found, ?_⟩
  intro j listed
  have lt : i < c.names.length := (List.getElem?_eq_some_iff.1 found).1
  have same : c.names[i]? = c.names[j]? := found.trans (mem_order_iff.1 listed).symm
  exact ((List.getElem?_inj lt coherent.distinct).1 same).symm

/-- At each place in the order is one id. -/
lemma existsUnique_at_place {i : Nat} (lt : i < c.names.length) : ∃! id, (id, i) ∈ c.order := by
  refine ⟨c.names[i], mem_order_iff.2 (List.getElem?_eq_getElem lt), ?_⟩
  intro id listed
  have found : c.names[i]? = some id := mem_order_iff.1 listed
  rw [List.getElem?_eq_getElem lt] at found
  exact (Option.some.inj found).symm

/-- The ids of the rules that are enabled are the names that are not disabled. -/
lemma map_id_enabled (c : Catalog) : c.enabled.map (·.id) = c.names.filter (· ∉ c.disabled) := by
  rw [names, List.filter_map, enabled]
  congr 1
  refine List.filter_congr fun rule _ => ?_
  simp

/-- A rule that is registered is enabled, since nothing that is not registered is disabled. -/
lemma Coherent.enabled_register (coherent : c.Coherent history) {rule : Rule}
    (fresh : rule.id ∉ c.names) : (c.after (.register rule)).enabled = c.enabled ++ [rule] := by
  have not_disabled : rule.id ∉ c.disabled := fun mem => fresh (coherent.disabled rule.id mem)
  rw [(Makes.register fresh).after_eq, enabled, List.filter_append]
  congr 1
  simp [not_disabled]

end Coherent

/-- Rules with new ids are registered one after the other, by induction on them. -/
lemma foldlM_register {rules : List Rule} (distinct : (c.names ++ rules.map (·.id)).Nodup) :
    rules.foldlM register c = .ok ⟨c.rules ++ rules, c.disabled⟩ := by
  induction rules generalizing c with
  | nil =>
    rw [List.append_nil]
    rfl
  | cons rule rules ih =>
    have fresh : rule.id ∉ c.names := by
      intro mem
      exact (List.nodup_append'.1 distinct).2.2 mem List.mem_cons_self
    have registered : c.register rule = .ok ⟨c.rules ++ [rule], c.disabled⟩ :=
      (Makes.register fresh).apply_eq
    have names : (Catalog.mk (c.rules ++ [rule]) c.disabled).names = c.names ++ [rule.id] :=
      List.map_append
    rw [List.map_cons, List.append_cons, ← names] at distinct
    rw [List.foldlM_cons, registered, List.append_cons c.rules rule rules]
    exact ih distinct

/-- Rules with different ids make a catalog, and whatever it is changed to, with refused calls in
between: its rules keep different ids and stand in the order in which they were registered last, each
at a place of its own; only rules that it has are disabled; a rule that is registered, be it again, is
enabled and the last; a call is refused just for an id that is taken or unknown, and leaves the
catalog as it is. The rules of a run are then the enabled ones in that order without those that the
options disable, provided that the options name only rules of the catalog. -/
theorem afterAll_coherent (rules : List Rule) (distinct : (rules.map (·.id)).Nodup)
    (xs : List Change) :
    ofRules rules = .ok ⟨rules, []⟩ ∧
    let start : Catalog := ⟨rules, []⟩
    let c := start.afterAll xs
    c.Coherent (rules.map (·.id) ++ start.registrations xs) ∧
    (∀ id i, (id, i) ∈ c.order ↔ c.names[i]? = some id) ∧
    (∀ id ∈ c.names, ∃! i, (id, i) ∈ c.order) ∧
    (∀ i < c.names.length, ∃! id, (id, i) ∈ c.order) ∧
    c.enabled.map (·.id) = c.names.filter (· ∉ c.disabled) ∧
    (∀ id, id ∉ (c.after (.unregister id)).names) ∧
    (∀ rule : Rule, rule.id ∉ c.names →
      (c.after (.register rule)).names = c.names ++ [rule.id] ∧
      (c.after (.register rule)).enabled = c.enabled ++ [rule]) ∧
    (∀ x, (x.call.run.run c).1 = .ok () → c.Makes x (c.after x)) ∧
    (∀ x fault, (x.call.run.run c).1 = .error fault ↔ c.Refuses x fault) ∧
    (∀ x fault, (x.call.run.run c).1 = .error fault → c.after x = c) ∧
    ∀ options : Options,
      ((∃ chosen, c.rulesFor options = .ok chosen) ↔ c.Knows options) ∧
      ∀ chosen, c.rulesFor options = .ok chosen →
        chosen = c.enabled.filter fun rule => rule.id ∉ options.disabled.names := by
  have made : ofRules rules = .ok ⟨rules, []⟩ := foldlM_register (c := empty) distinct
  have coherent_start : (Catalog.mk rules []).Coherent (rules.map (·.id)) := by
    refine ⟨distinct, List.forall_mem_nil _, ?_⟩
    rw [List.dedup_eq_self.2 distinct]
    exact List.Sublist.refl _
  refine ⟨made, ?_⟩
  intro start c
  have coherent := coherent_start.afterAll xs
  refine ⟨coherent, fun id i => mem_order_iff, fun id => coherent.existsUnique_place,
    fun i => existsUnique_at_place, map_id_enabled c, ?_, ?_, fun x => makes_of_call,
    fun x fault => call_refused_iff, ?_, ?_⟩
  · intro id mem
    rw [Makes.unregister.after_eq, names_filter] at mem
    simpa using (List.mem_filter.1 mem).2
  · intro rule fresh
    refine ⟨?_, coherent.enabled_register fresh⟩
    rw [(Makes.register fresh).after_eq]
    exact List.map_append
  · intro x fault refused
    exact (call_refused_iff.1 refused).after_eq
  · intro options
    refine ⟨?_, ?_⟩
    · constructor
      · rintro ⟨chosen, ok⟩
        exact (rulesFor_eq_ok_iff.1 ok).1
      · intro knows
        exact ⟨_, rulesFor_eq_ok_iff.2 ⟨knows, rfl⟩⟩
    · intro chosen ok
      rw [(rulesFor_eq_ok_iff.1 ok).2]
      refine List.filter_congr fun rule _ => ?_
      simp [NameSet.contains]

/-- A rule that is disabled, taken out and registered again, while a rule that is there already and one
that is unknown are refused. -/
def detour : List Change :=
  [.disable "TypeCasing", .register .fieldCasing, .unregister "TypeCasing", .disable "TypeCasing",
    .register .typeCasing]

/-- The rule comes back enabled and behind the other. -/
theorem afterAll_coherent_detour :
    ([Rule.typeCasing, Rule.fieldCasing].map (·.id)).Nodup ∧
    let c := (Catalog.mk [.typeCasing, .fieldCasing] []).afterAll detour
    c.names = ["FieldCasing", "TypeCasing"] ∧ c.names.Nodup ∧
    c.enabled.map (·.id) = ["FieldCasing", "TypeCasing"] ∧
    (∃! i, ("TypeCasing", i) ∈ c.order) := by
  have distinct : ([Rule.typeCasing, Rule.fieldCasing].map (·.id)).Nodup := by decide +kernel
  refine ⟨distinct, ?_⟩
  intro c
  obtain ⟨-, coherent, -, place, -, enabled, -⟩ := afterAll_coherent _ distinct detour
  have names : c.names = ["FieldCasing", "TypeCasing"] := by decide +kernel
  have disabled : c.disabled = [] := by decide +kernel
  refine ⟨names, coherent.distinct, ?_, place "TypeCasing" ?_⟩
  · rw [enabled, disabled, names]
    decide +kernel
  · rw [names]
    decide

end SchemaLint.Catalog

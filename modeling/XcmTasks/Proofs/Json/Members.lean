import XcmTasks.Proofs.Json.Settling

/-!
Records and variants. The members of a record are read in any order and some may be left out; its
value is written with all of them, in the order of declaration. For this it is enough that no two
members share a name and that each is written and read back by itself.
-/

namespace XcmTasks

open Document
open Json (Plain)

variable {α β : Type} {d : Nat} {manner : Manner} {document : Document}

namespace Document.Members

/-- A member of this name is passed over. -/
def Ignores (ms : Members α) (key : String) : Prop :=
  ∀ manner state, ms.take manner key state = none

/-- What holds of the state at the start and is kept by the members that are taken, and then holds
of the value. -/
structure Keeps (ms : Members α) (inv : ms.State → Prop) (P : α → Prop) : Prop where
  start : inv ms.start
  take : ∀ {manner key state step document state'}, inv state →
    ms.take manner key state = some step → step document = .ok state' → inv state'
  finish : ∀ {state a}, inv state → ms.finish state = .ok a → P a
  ofItems : ∀ {manner items a rest}, ms.ofItems manner items = .ok (a, rest) → P a

/-- Every value that is read has the property. -/
def Yields (ms : Members α) (P : α → Prop) : Prop := ∃ inv, ms.Keeps inv P

inductive Takes (ms : Members α) : ms.State → List (String × Json) → ms.State → Prop where
  | done (state : ms.State) : Takes ms state [] state
  | taken {state state' state'' : ms.State} {key : String} {j : Json}
      {step : Document → Reading ms.State} {members : List (String × Json)}
      (ht : ms.take .exact key state = some step) (hs : step j.tree = .ok state')
      (rest : Takes ms state' members state'') : Takes ms state ((key, j) :: members) state''

def Reads (ms : Members α) (members : List (String × Json)) (a : α) : Prop :=
  ∃ state, Takes ms ms.start members state ∧ ms.finish state = .ok a

variable {ms : Members α} {f : Members (α → β)} {x : Members α} {P : α → Prop}
variable {members : List (String × Json)}

theorem Yields.mono {Q : α → Prop} (h : ms.Yields P) (hq : ∀ a, P a → Q a) : ms.Yields Q := by
  obtain ⟨inv, keeps⟩ := h
  exact ⟨inv, keeps.start, keeps.take, fun hi hf => hq _ (keeps.finish hi hf),
    fun hi => hq _ (keeps.ofItems hi)⟩

theorem Keeps.run {inv : ms.State → Prop} (h : ms.Keeps inv P) {state state' : ms.State}
    {documents : List (Option String × Document)} (hi : inv state)
    (hr : ms.run manner state documents = .ok state') : inv state' := by
  induction documents generalizing state with
  | nil =>
    cases hr
    exact hi
  | cons member documents ih =>
    obtain ⟨key, document⟩ := member
    cases key with
    | none => cases hr
    | some key =>
      rw [Members.run] at hr
      split at hr
      case h_1 step ht =>
        obtain ⟨state₁, hs, hr⟩ := bind_eq_ok hr
        exact ih (h.take hi ht hs) hr
      case h_2 =>
        split at hr
        case isTrue => exact ih hi hr
        case isFalse => cases hr

theorem Yields.recordOf (h : ms.Yields P) {a : α} (hr : recordOf ms manner document = .ok a) :
    P a := by
  obtain ⟨inv, keeps⟩ := h
  unfold Document.recordOf at hr
  split at hr
  case h_1 members closed =>
    obtain ⟨state, hs, hr⟩ := bind_eq_ok hr
    split at hr
    case isTrue => exact keeps.finish (keeps.run keeps.start hs) hr
    case isFalse => cases hr
  case h_2 items closed =>
    obtain ⟨⟨a', rest⟩, hi, hr⟩ := bind_eq_ok hr
    dsimp only at hr
    split at hr
    case isTrue =>
      cases hr
      exact keeps.ofItems hi
    case isFalse => cases hr
  case h_3 => cases hr

theorem Takes.run {state state' : ms.State} (h : Takes ms state members state') :
    ms.run .exact state (Json.memberTrees members) = .ok state' := by
  induction h with
  | done => rfl
  | taken ht hs rest ih =>
    rw [Json.memberTrees, Members.run, ht]
    change (_ >>= _) = _
    rw [hs]
    exact ih

theorem Takes.append {state state' state'' : ms.State} {more : List (String × Json)}
    (h : Takes ms state members state') (h' : Takes ms state' more state'') :
    Takes ms state (members ++ more) state'' := by
  induction h with
  | done => exact h'
  | taken ht hs rest ih => exact .taken ht hs (ih h')

theorem Reads.recordOf {a : α} (h : ms.Reads members a) :
    recordOf ms .exact (Json.object members).tree = .ok a := by
  obtain ⟨state, takes, finish⟩ := h
  change (ms.run .exact ms.start (Json.memberTrees members) >>= _) = _
  rw [takes.run]
  exact finish

/-! ### A value without members, and a member more -/

theorem yields_of {a : α} (h : P a) : (of a).Yields P := by
  refine ⟨fun _ => True, trivial, ?_, ?_, ?_⟩
  · intros
    trivial
  · intro _ a' _ he
    cases he
    exact h
  · intro _ _ a' _ he
    cases he
    exact h

section
variable {key : String} {state : f.State} {other : x.State}

theorem take_and_left {step : Document → Reading f.State}
    (h : f.take manner key state = some step) :
    (f.and x).take manner key (state, other) =
      some fun document => do return (← step document, other) := by
  unfold and
  simp only [h]

theorem take_and_right {step : Document → Reading x.State}
    (hf : f.take manner key state = none) (hx : x.take manner key other = some step) :
    (f.and x).take manner key (state, other) =
      some fun document => do return (state, ← step document) := by
  unfold and
  simp only [hf, hx]

theorem take_and_none (hf : f.take manner key state = none)
    (hx : x.take manner key other = none) : (f.and x).take manner key (state, other) = none := by
  unfold and
  simp only [hf, hx]

end

theorem Yields.and {Q : α → Prop} {R : β → Prop} (hf : f.Yields fun g => ∀ a, Q a → R (g a))
    (hx : x.Yields Q) : (f.and x).Yields R := by
  obtain ⟨inv, keeps⟩ := hf
  obtain ⟨inv', keeps'⟩ := hx
  refine ⟨fun state => inv state.1 ∧ inv' state.2, ⟨keeps.start, keeps'.start⟩, ?_, ?_, ?_⟩
  · rintro manner key ⟨state, other⟩ step document state' ⟨hi, hi'⟩ ht hs
    cases hf' : f.take manner key state with
    | some step' =>
      cases (take_and_left hf').symm.trans ht
      obtain ⟨state₁, hs', hs⟩ := bind_eq_ok hs
      cases hs
      exact ⟨keeps.take hi hf' hs', hi'⟩
    | none =>
      cases hx' : x.take manner key other with
      | some step' =>
        cases (take_and_right hf' hx').symm.trans ht
        obtain ⟨state₁, hs', hs⟩ := bind_eq_ok hs
        cases hs
        exact ⟨hi, keeps'.take hi' hx' hs'⟩
      | none => cases (take_and_none hf' hx').symm.trans ht
  · rintro state b ⟨hi, hi'⟩ hb
    obtain ⟨g, hg, hb⟩ := bind_eq_ok hb
    obtain ⟨a, ha, hb⟩ := bind_eq_ok hb
    cases hb
    exact keeps.finish hi hg a (keeps'.finish hi' ha)
  · intro manner items b rest hb
    obtain ⟨⟨g, items'⟩, hg, hb⟩ := bind_eq_ok hb
    obtain ⟨⟨a, items''⟩, ha, hb⟩ := bind_eq_ok hb
    cases hb
    exact keeps.ofItems hg a (keeps'.ofItems ha)

section
variable {name key : String} {aliases : List String} {default? : Option α}
variable {item : Manner → Document → Reading α}

theorem take_one {state : Option α} (named : (key = name || aliases.contains key) = true) :
    (one name aliases default? item).take manner key state = some fun document =>
      match state with
      | some _ => .error (.duplicateMember name)
      | none => some <$> item manner document :=
  if_pos named

theorem take_one_other {state : Option α}
    (other : ¬ (key = name || aliases.contains key) = true) :
    (one name aliases default? item).take manner key state = none :=
  if_neg other

end

theorem yields_one {name : String} {aliases : List String} {default? : Option α}
    {item : Manner → Document → Reading α} {Q : α → Prop}
    (hi : ∀ manner document a, item manner document = .ok a → Q a) (hd : ∀ a ∈ default?, Q a) :
    (one name aliases default? item).Yields Q := by
  refine ⟨fun (state : Option α) => ∀ a ∈ state, Q a, fun _ ha => (Option.not_mem_none _ ha).elim,
    ?_, ?_, ?_⟩
  · intro manner key (state : Option α) step document state' hs ht hd
    by_cases named : (key = name || aliases.contains key) = true
    · cases (take_one named).symm.trans ht
      cases state with
      | some a => cases hd
      | none =>
        obtain ⟨a, ha, rfl⟩ := map_eq_ok hd
        intro a' ha'
        cases ha'
        exact hi _ _ _ ha
    · cases (take_one_other named).symm.trans ht
  · intro state a hs ha
    cases state with
    | some a' =>
      cases ha
      exact hs a rfl
    | none =>
      cases default? with
      | some a' =>
        cases ha
        exact hd a rfl
      | none => cases ha
  · intro manner items a rest ha
    cases items with
    | nil =>
      cases default? with
      | some a' =>
        cases ha
        exact hd a rfl
      | none => cases ha
    | cons document items =>
      obtain ⟨a', ha', ha⟩ := bind_eq_ok ha
      cases ha
      exact hi _ _ _ ha'

theorem reads_of (a : α) : (of a).Reads [] a := ⟨(), .done _, rfl⟩

theorem Takes.left {state state' : f.State} (h : Takes f state members state') (other : x.State) :
    Takes (f.and x) (state, other) members (state', other) := by
  induction h with
  | done => exact .done _
  | @taken state state' state'' key j step members ht hs rest ih =>
    refine .taken (take_and_left ht) ?_ ih
    rw [hs]
    rfl

theorem Reads.and_one {name : String} {aliases : List String} {default? : Option α}
    {item : Manner → Document → Reading α} {g : α → β} {j : Json} {a : α}
    (hf : f.Reads members g) (fresh : f.Ignores name) (ha : item .exact j.tree = .ok a) :
    (f.and (one name aliases default? item)).Reads (members ++ [(name, j)]) (g a) := by
  obtain ⟨state, takes, finish⟩ := hf
  have earlier := takes.left (x := one name aliases default? item) (none : Option α)
  refine ⟨(state, some a), earlier.append ?_, ?_⟩
  · have named : (name = name || aliases.contains name) = true := by simp
    have own : (one name aliases default? item).take .exact name none = _ := take_one named
    refine .taken (take_and_right (fresh .exact state) own) ?_ (.done _)
    rw [ha]
    rfl
  · change (f.finish state >>= _) = _
    rw [finish]
    rfl

theorem reads_two {α β γ : Type} {f : α → β → γ} {key key' : String} {default? : Option α}
    {other? : Option β} {item : Manner → Document → Reading α}
    {item' : Manner → Document → Reading β} {j j' : Json} {a : α} {b : β} (hk : key' ≠ key)
    (ha : item .exact j.tree = .ok a) (hb : item' .exact j'.tree = .ok b) :
    (((of f).and (one key [] default? item)).and (one key' [] other? item')).Reads
      [(key, j), (key', j')] (f a b) := by
  have fresh : ¬ (key' = key || [].contains key') = true := by simpa using hk
  have first : ((of f).and (one key [] default? item)).Reads [(key, j)] (f a) :=
    (reads_of f).and_one (fun _ _ => rfl) ha
  exact first.and_one (fun _ _ => take_and_none rfl (take_one_other fresh)) hb

/-! ### Records -/

/-- Only members of these names are taken, and if the names differ, then what is read is written as
members in the relation and read back from them. A record is put together from a function by one
member after another, so the relation of a part is what the whole asks of it for all the values that
the members behind it may have. -/
structure Settles (ms : Members α) (names : List String) (d : Nat)
    (R : List (String × Json) → α → Prop) : Prop where
  ignores : ∀ key ∉ names, ms.Ignores key
  yields : names.Nodup → ms.Yields fun a =>
    ∃ members, (∀ e ∈ members, Plain d e.2) ∧ R members a ∧ ms.Reads members a

variable {names : List String} {name : String} {aliases : List String} {default? : Option α}
variable {item : Manner → Document → Reading α} {W : Json → α → Prop}
variable {R : List (String × Json) → β → Prop}

theorem Settles.mono {R R' : List (String × Json) → α → Prop} (h : ms.Settles names d R)
    (hr : ∀ members a, R members a → R' members a) : ms.Settles names d R' where
  ignores := h.ignores
  yields := fun hn => (h.yields hn).mono fun _ ⟨members, plain, holds, reads⟩ =>
    ⟨members, plain, hr _ _ holds, reads⟩

theorem settles_of {R : List (String × Json) → α → Prop} {a : α} (h : R [] a) :
    (of a).Settles [] d R where
  ignores := fun _ _ _ _ => rfl
  yields := fun _ => yields_of ⟨[], List.forall_mem_nil _, h, reads_of a⟩

/-- A member more is written behind the others. What takes its place if it is left out has to be
something that it can be read as. -/
theorem Settles.one (hf : f.Settles names d fun members g =>
      ∀ j a, W j a → R (members ++ [(name, j)]) (g a))
    (hi : Document.Settles item d W)
    (hd : ∀ a ∈ default?, ∃ manner document, item manner document = .ok a) :
    (f.and (one name aliases default? item)).Settles (names ++ name :: aliases) d R := by
  refine ⟨?_, ?_⟩
  · intro key hk manner state
    rw [List.mem_append, not_or, List.mem_cons] at hk
    have other : ¬ (key = name || aliases.contains key) = true := by simpa using hk.2
    exact take_and_none (hf.ignores key hk.1 manner state.1) (take_one_other other)
  · intro hn
    have fresh : name ∉ names := fun hm => List.disjoint_of_nodup_append hn hm List.mem_cons_self
    have member : (Members.one name aliases default? item).Yields fun a =>
        ∃ j, Plain d j ∧ W j a ∧ item .exact j.tree = .ok a := by
      refine yields_one (fun _ _ _ ha => hi ha) ?_
      intro a ha
      obtain ⟨manner, document, hr⟩ := hd a ha
      exact hi hr
    refine Yields.and ((hf.yields hn.of_append_left).mono ?_) member
    rintro g ⟨members, plain, holds, reads⟩ a ⟨j, hj, hw, back⟩
    refine ⟨members ++ [(name, j)], ?_, holds j a hw,
      reads.and_one (hf.ignores name fresh) back⟩
    intro e he
    rcases List.mem_append.mp he with he | he
    · exact plain e he
    · cases List.mem_singleton.mp he
      exact hj

variable [ToJson α] [FromDocument α] [Settled α d]

theorem Settles.required (hf : f.Settles names d fun members g =>
      ∀ a, R (members ++ [(name, toJson a)]) (g a)) :
    (f.and (Members.required name)).Settles (names ++ [name]) d R := by
  refine Settles.one (hf.mono ?_) Settled.settles fun _ hd => (Option.not_mem_none _ hd).elim
  rintro members g holds _ a rfl
  exact holds a

theorem Settles.withDefault {a : α} (document : Document) (ha : read .exact document = .ok a)
    (hf : f.Settles names d fun members g => ∀ a, R (members ++ [(name, toJson a)]) (g a)) :
    (f.and (Members.withDefault name a)).Settles (names ++ [name]) d R := by
  refine Settles.one (hf.mono ?_) Settled.settles ?_
  · rintro members g holds _ a rfl
    exact holds a
  · rintro _ ⟨⟩
    exact ⟨.exact, document, ha⟩

end Members

theorem settles_recordOf {ms : Members α} {names : List String} {W : Json → α → Prop}
    (hn : names.Nodup) (h : ms.Settles names d fun members a => W (.object members) a) :
    Settles (recordOf ms) (d + 1) W := by
  intro manner document a ha
  obtain ⟨members, plain, holds, reads⟩ := (h.yields hn).recordOf ha
  exact ⟨.object members, .object plain, holds, reads.recordOf⟩

/-! ### Variants -/

section
variable {variants : List (String × Variant α)} {a : α}

/-- How a variant is written: its name, or an object with its value under its name. -/
def Variant.Settles (name : String) (d : Nat) (W : Json → α → Prop) : Variant α → Prop
  | .plain a => W (.text name) a
  | .carrying item => Document.Settles item d fun j a => W (.object [(name, j)]) a

theorem of_variantOf (h : variantOf variants manner document = .ok a) :
    ∃ v ∈ variants, v.2 = .plain a ∨
      ∃ item manner document, v.2 = .carrying item ∧ item manner document = .ok a := by
  unfold variantOf at h
  extract_lets find at h
  have known : ∀ name v, find name = .ok v → ∃ w ∈ variants, w.2 = v := by
    intro name v hv
    dsimp only [find] at hv
    split at hv
    case h_1 w found =>
      cases hv
      refine ⟨w, ?_, rfl⟩
      cases manner with
      | exact => exact List.mem_of_find?_eq_some found
      | lenient => exact List.mem_of_find?_eq_some found
    case h_2 => cases hv
  split at h
  case h_1 name =>
    obtain ⟨v, hv, h⟩ := bind_eq_ok h
    obtain ⟨w, hw, rfl⟩ := known name v hv
    refine ⟨w, hw, .inl ?_⟩
    split at h
    case h_1 heq =>
      cases h
      exact heq
    case h_2 => cases h
  case h_2 name payload others closed =>
    obtain ⟨v, hv, h⟩ := bind_eq_ok h
    obtain ⟨w, hw, rfl⟩ := known name v hv
    refine ⟨w, hw, ?_⟩
    have last : ∀ a', (if others.isEmpty && closed then pure a' else .error .malformed :
        Reading α) = .ok a → a' = a := by
      intro a' h
      split at h
      case isTrue =>
        cases h
        rfl
      case isFalse => cases h
    dsimp only at h
    split at h
    case h_1 a' heq =>
      split at h
      case h_2 => cases h
      all_goals
        cases last a' h
        exact .inl heq
    case h_2 item heq =>
      obtain ⟨a', ha', h⟩ := bind_eq_ok h
      cases last a' h
      exact .inr ⟨item, manner, payload, heq, ha'⟩
  case h_3 => cases h

theorem find?_name (hn : (variants.map Prod.fst).Nodup) {v : String × Variant α}
    (hv : v ∈ variants) : variants.find? (fun v' => v'.1 == v.1) = some v := by
  induction variants with
  | nil => exact absurd hv List.not_mem_nil
  | cons first variants ih =>
    obtain ⟨alone, hn⟩ := List.nodup_cons.mp hn
    rcases List.mem_cons.mp hv with rfl | hv
    · exact List.find?_cons_of_pos (beq_self_eq_true v.1)
    · have other : ¬ (first.1 == v.1) = true := by
        intro he
        rw [beq_iff_eq] at he
        exact alone (List.mem_map.mpr ⟨v, hv, he.symm⟩)
      have skipped := List.find?_cons_of_neg (l := variants)
        (p := fun v' : String × Variant α => v'.1 == v.1) other
      exact skipped.trans (ih hn hv)

theorem variantOf_plain (hn : (variants.map Prod.fst).Nodup) {name : String}
    (hv : (name, .plain a) ∈ variants) : variantOf variants .exact (.text (some name)) = .ok a := by
  have found := find?_name hn hv
  simp only [variantOf, found]
  rfl

theorem variantOf_carrying (hn : (variants.map Prod.fst).Nodup) {name : String}
    {item : Manner → Document → Reading α} (hv : (name, .carrying item) ∈ variants) {j : Json}
    (ha : item .exact j.tree = .ok a) :
    variantOf variants .exact (Json.object [(name, j)]).tree = .ok a := by
  have found := find?_name hn hv
  change variantOf variants .exact (.object [(some name, j.tree)] true) = .ok a
  simp only [variantOf, found]
  change (item .exact j.tree >>= fun a => if [].isEmpty && true then pure a else _) = .ok a
  rw [ha]
  rfl

theorem settles_variantOf {W : Json → α → Prop} (hn : (variants.map Prod.fst).Nodup)
    (h : ∀ v ∈ variants, v.2.Settles v.1 d W) : Settles (variantOf variants) (d + 1) W := by
  intro manner document a ha
  obtain ⟨⟨name, v⟩, hv, rfl | ⟨item, manner, document, rfl, hi⟩⟩ := of_variantOf ha
  · exact ⟨.text name, .text name, h _ hv, variantOf_plain hn hv⟩
  · obtain ⟨j, plain, holds, back⟩ := h _ hv hi
    refine ⟨.object [(name, j)], .object ?_, holds, variantOf_carrying hn hv back⟩
    intro e he
    cases List.mem_singleton.mp he
    exact plain

end

end Document

end XcmTasks

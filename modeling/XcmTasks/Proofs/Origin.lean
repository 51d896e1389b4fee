import XcmTasks.Proofs.Setup

/-!
The chain that tasks are scheduled on. A key that the builder names goes before one that the
settings name, that before the smallest one of an enabled entry of the right family, and that before
the smallest one of a chain that is added. What has been built holds the adapter of the key so
chosen; without any key to choose nothing is built.
-/

namespace XcmTasks

/-- The key has the property, and no smaller key has it. -/
structure Smallest (p : String → Prop) (key : String) : Prop where
  holds : p key
  least : ∀ other, p other → ¬ other < key

theorem Smallest.unique {p : String → Prop} {key key' : String} (h : Smallest p key)
    (h' : Smallest p key') : key = key' := by
  have below := String.not_lt.mp (h.least key' h'.holds)
  have above := String.not_lt.mp (h'.least key h.holds)
  exact String.le_antisymm below above

/-- The smallest key of the first kind that there are any keys of. -/
inductive FirstChoice : List (String → Prop) → String → Prop where
  | here {p : String → Prop} {others : List (String → Prop)} {key : String}
      (smallest : Smallest p key) : FirstChoice (p :: others) key
  | later {p : String → Prop} {others : List (String → Prop)} {key : String}
      (none : ∀ other, ¬ p other) (choice : FirstChoice others key) :
      FirstChoice (p :: others) key

theorem FirstChoice.unique {kinds : List (String → Prop)} {key key' : String}
    (h : FirstChoice kinds key) (h' : FirstChoice kinds key') : key = key' := by
  induction h with
  | here smallest =>
    cases h' with
    | here smallest' => exact smallest.unique smallest'
    | later none => exact absurd smallest.holds (none _)
  | later none _ ih =>
    cases h' with
    | here smallest' => exact absurd smallest'.holds (none _)
    | later _ choice' => exact ih choice'

theorem smallest_eq_some {o : Option String} {key : String} (h : o = some key) :
    Smallest (fun k => o = some k) key := by
  refine ⟨h, ?_⟩
  intro other h'
  have same : key = other := Option.some.inj (h.symm.trans h')
  rw [same]
  exact String.lt_irrefl other

theorem smallest_of_find? {α : Type} {f : α → String} {p : α → Bool} {as : List α} {a : α}
    (ascending : (as.map f).Pairwise (· < ·)) (found : as.find? p = some a) :
    Smallest (fun key => ∃ b ∈ as, f b = key ∧ p b = true) (f a) := by
  obtain ⟨holds, before, after, rfl, others⟩ := List.find?_eq_some_iff_append.mp found
  refine ⟨⟨a, by simp, rfl, holds⟩, ?_⟩
  rintro _ ⟨b, member, rfl, holds'⟩
  rw [List.map_append, List.map_cons, List.pairwise_append, List.pairwise_cons] at ascending
  obtain ⟨-, ⟨behind, -⟩, -⟩ := ascending
  rcases List.mem_append.mp member with earlier | later
  · have other := others b earlier
    simp [holds'] at other
  · rcases List.mem_cons.mp later with rfl | later
    · exact String.lt_irrefl (f b)
    · exact String.lt_asymm (behind (f b) (List.mem_map_of_mem later))

/-- The settings have an enabled entry of the family of origins under the key. -/
def Settings.Offers (s : Settings) (key : String) : Prop :=
  ∃ entry, s.chains.get? key = some entry ∧ entry.enabled = true ∧ entry.family = .oak

namespace Settings

variable {s : Settings} {key : String}

theorem offers_iff : s.Offers key ↔ ∃ e ∈ s.enabled, e.1 = key ∧ e.2.family = .oak := by
  unfold Offers enabled
  simp only [Table.get?_eq_some_iff, List.mem_filter]
  constructor
  · rintro ⟨entry, member, enabled, family⟩
    exact ⟨(key, entry), ⟨member, enabled⟩, rfl, family⟩
  · rintro ⟨⟨key', entry⟩, ⟨member, enabled⟩, rfl, family⟩
    exact ⟨entry, member, enabled, family⟩

theorem originKey_eq_ok (h : s.originKey = .ok key) :
    s.scheduler.origin = some key ∨ s.scheduler.origin = none ∧ Smallest s.Offers key := by
  unfold originKey at h
  cases named : s.scheduler.origin with
  | some key' =>
    simp only [named] at h
    cases entry : s.enabled.lookup key' with
    | none => simp [entry] at h
    | some chain =>
      by_cases family : chain.family = .oak
      · simp only [entry, family, if_true] at h
        exact .inl (congrArg some (Except.ok.inj h))
      · simp [entry, family] at h
  | none =>
    simp only [named] at h
    cases found : s.enabled.find? fun e => e.2.family == .oak with
    | none => simp [found] at h
    | some e =>
      simp only [found, Except.ok.injEq] at h
      have smallest := smallest_of_find? (f := Prod.fst) s.enabledKeys_ascending found
      rw [h] at smallest
      have same : (fun key => ∃ e ∈ s.enabled, e.1 = key ∧ (e.2.family == .oak) = true) =
          s.Offers := by
        funext key
        simp [offers_iff]
      rw [same] at smallest
      exact .inr ⟨rfl, smallest⟩

/-- The settings lack an origin just if they name none and offer none. -/
theorem originKey_eq_missingOrigin :
    s.originKey = .error .missingOrigin ↔
      s.scheduler.origin = none ∧ ∀ key, ¬ s.Offers key := by
  constructor
  · intro h
    have family := family_of_missingOrigin h
    refine ⟨?_, ?_⟩
    · cases named : s.scheduler.origin with
      | none => rfl
      | some key =>
        unfold originKey at h
        simp only [named] at h
        split at h
        · simp at h
        · split at h <;> simp at h
    · intro key offers
      obtain ⟨e, member, -, oak⟩ := offers_iff.mp offers
      exact family e member oak
  · rintro ⟨unnamed, offers⟩
    have nowhere : s.enabled.find? (fun e => e.2.family == .oak) = none := by
      rw [List.find?_eq_none]
      intro e member oak
      exact offers e.1 (offers_iff.mpr ⟨e, member, rfl, by simpa using oak⟩)
    unfold originKey
    simp only [unnamed, nowhere]

end Settings

namespace Setup

variable {setup : Setup} {environment : Environment} {chains : List Chain} {r : Registry}
variable {key : String} {s : Scheduler}

def effective (setup : Setup) : Settings := setup.settings.getD default

def Adds (setup : Setup) (key : String) : Prop :=
  ∃ chain ∈ setup.chains, chain.key = key ∧ chain.family = .oak

/-- The keys that the origin may be taken from, those that go before others first. -/
def originChoices (setup : Setup) : List (String → Prop) :=
  [fun key => setup.origin = some key, fun key => setup.effective.scheduler.origin = some key,
    setup.effective.Offers, setup.Adds]

/-- The chains of the settings and those that are added make a registry. -/
def Accepted (setup : Setup) (environment : Environment) (chains : List Chain) (r : Registry) :
    Prop :=
  setup.effective.enabledChains environment = .ok chains ∧
    Registry.ofChains (chains ++ setup.chains) = .ok r

theorem firstOrigin_eq_ok {all : List Chain} (h : Registry.Holds all r)
    (hf : firstOrigin r = .ok key) :
    Smallest (fun key => ∃ chain ∈ all, chain.key = key ∧ chain.family = .oak) key := by
  unfold firstOrigin at hf
  cases found : r.keys.find? fun key => (r.origin key).toBool with
  | none => simp [found] at hf
  | some key' =>
    simp only [found, Except.ok.injEq] at hf
    subst hf
    have ascending : (r.keys.map id).Pairwise (· < ·) := by
      rw [List.map_id]
      exact r.positions.keys_ascending
    have smallest := smallest_of_find? ascending found
    have same (key : String) : (∃ k ∈ r.keys, id k = key ∧ (r.origin k).toBool = true) ↔
        ∃ chain ∈ all, chain.key = key ∧ chain.family = .oak := by
      constructor
      · rintro ⟨key, -, rfl, origin⟩
        cases known : r.origin key with
        | error e => simp [known, Except.toBool] at origin
        | ok a =>
          obtain ⟨chain, member, named, -⟩ := h.origin.mp known
          exact ⟨chain, member, named⟩
      · rintro ⟨chain, member, named, oak⟩
        have origin : r.origin key = .ok (.new chain) :=
          h.origin.mpr ⟨chain, member, ⟨named, oak⟩, rfl⟩
        refine ⟨key, h.mem_keys.mpr ⟨chain, member, named⟩, rfl, ?_⟩
        rw [origin]
        rfl
    simp only [same] at smallest
    exact smallest

theorem no_origin_of_firstOrigin {all : List Chain} (h : Registry.Holds all r)
    (hf : firstOrigin r = .error .missingOrigin) (key : String) (a : Adapter) :
    r.origin key ≠ .ok a := by
  intro origin
  obtain ⟨chain, member, named, -⟩ := h.origin.mp origin
  have known : key ∈ r.keys := h.mem_keys.mpr ⟨chain, member, named.1⟩
  unfold firstOrigin at hf
  cases found : r.keys.find? fun key => (r.origin key).toBool with
  | some key' => simp [found] at hf
  | none =>
    have other := List.find?_eq_none.mp found key known
    simp [origin, Except.toBool] at other

/-- Where the settings offer no origin, the chains that can be one are among those added. -/
theorem origins_of_unoffered (hc : setup.effective.enabledChains environment = .ok chains)
    (unoffered : ∀ key, ¬ setup.effective.Offers key) (key : String) :
    (∃ chain ∈ chains ++ setup.chains, chain.key = key ∧ chain.family = .oak) ↔
      setup.Adds key := by
  unfold Adds
  constructor
  · rintro ⟨chain, member, named, oak⟩
    rcases List.mem_append.mp member with configured | added
    · have offers : setup.effective.Offers key := by
        rw [Settings.offers_iff, ← Settings.family_of_enabledChains hc]
        exact ⟨chain, configured, named, oak⟩
      exact absurd offers (unoffered key)
    · exact ⟨chain, added, named, oak⟩
  · rintro ⟨chain, added, named, oak⟩
    exact ⟨chain, List.mem_append_right _ added, named, oak⟩

theorem chooseOrigin_eq_ok (accepted : setup.Accepted environment chains r)
    (h : setup.chooseOrigin setup.effective r = .ok key) :
    FirstChoice setup.originChoices key := by
  obtain ⟨hc, hr⟩ := accepted
  unfold chooseOrigin at h
  unfold originChoices
  cases named : setup.origin with
  | some key' =>
    simp only [named, Except.ok.injEq] at h
    exact .here (smallest_eq_some (by rw [h]))
  | none =>
    simp only [named] at h
    apply FirstChoice.later
    · simp
    cases ho : setup.effective.originKey with
    | ok key' =>
      simp only [ho, Except.ok.injEq] at h
      subst h
      rcases Settings.originKey_eq_ok ho with configured | ⟨unset, smallest⟩
      · exact .here (smallest_eq_some configured)
      · apply FirstChoice.later
        · simp [unset]
        exact .here smallest
    | error e =>
      cases e with
      | missingOrigin =>
        obtain ⟨unset, unoffered⟩ := Settings.originKey_eq_missingOrigin.mp ho
        simp only [ho] at h
        have smallest := firstOrigin_eq_ok (Registry.holds_ofChains hr) h
        simp only [origins_of_unoffered hc unoffered] at smallest
        apply FirstChoice.later
        · simp [unset]
        exact .later unoffered (.here smallest)
      | _ => simp [ho] at h

theorem chooseOrigin_eq_missingOrigin (accepted : setup.Accepted environment chains r) :
    setup.chooseOrigin setup.effective r = .error .missingOrigin ↔
      ∀ choice ∈ setup.originChoices, ∀ key, ¬ choice key := by
  obtain ⟨hc, hr⟩ := accepted
  have holds := Registry.holds_ofChains hr
  have choices : (∀ choice ∈ setup.originChoices, ∀ key, ¬ choice key) ↔
      setup.origin = none ∧ setup.effective.originKey = .error .missingOrigin ∧
        ∀ key, ¬ setup.Adds key := by
    rw [Settings.originKey_eq_missingOrigin]
    simp [originChoices, Option.eq_none_iff_forall_ne_some, and_assoc]
  rw [choices]
  unfold chooseOrigin
  cases named : setup.origin with
  | some key' => simp
  | none =>
    simp only [true_and]
    cases ho : setup.effective.originKey with
    | ok key' => simp
    | error e =>
      cases e with
      | missingOrigin =>
        have unoffered := (Settings.originKey_eq_missingOrigin.mp ho).2
        simp only [true_and]
        constructor
        · intro h key added
          rw [← origins_of_unoffered hc unoffered] at added
          obtain ⟨chain, member, named, oak⟩ := added
          have origin : r.origin key = .ok (.new chain) :=
            holds.origin.mpr ⟨chain, member, ⟨named, oak⟩, rfl⟩
          exact no_origin_of_firstOrigin holds h key _ origin
        · intro unadded
          apply firstOrigin_eq_error
          intro key a origin
          obtain ⟨chain, member, named, -⟩ := holds.origin.mp origin
          exact unadded key ((origins_of_unoffered hc unoffered key).mp ⟨chain, member, named⟩)
      | _ => simp

theorem of_build (h : setup.build environment = .ok s) :
    (∃ chains, setup.Accepted environment chains s.registry) ∧
      setup.chooseOrigin setup.effective s.registry = .ok s.originKey ∧
      ∃ a, s.registry.origin s.originKey = .ok a := by
  unfold build at h
  obtain ⟨chains, hc, h⟩ := bind_eq_ok h
  obtain ⟨r, hr, h⟩ := bind_eq_ok h
  obtain ⟨key, chosen, h⟩ := bind_eq_ok h
  obtain ⟨a, origin, h⟩ := bind_eq_ok h
  cases h
  exact ⟨⟨chains, mapError_eq_ok hc, mapError_eq_ok hr⟩, chosen, a, mapError_eq_ok origin⟩

theorem build_eq_missingOrigin :
    setup.build environment = .error .missingOrigin ↔
      ∃ chains r, setup.Accepted environment chains r ∧
        setup.chooseOrigin setup.effective r = .error .missingOrigin := by
  constructor
  · intro h
    unfold build at h
    rcases bind_eq_error h with refused | ⟨chains, hc, h⟩
    · obtain ⟨e, -, other⟩ := mapError_eq_error refused
      simp at other
    rcases bind_eq_error h with refused | ⟨r, hr, h⟩
    · obtain ⟨e, -, other⟩ := mapError_eq_error refused
      simp at other
    refine ⟨chains, r, ⟨mapError_eq_ok hc, mapError_eq_ok hr⟩, ?_⟩
    rcases bind_eq_error h with missing | ⟨key, -, h⟩
    · exact missing
    rcases bind_eq_error h with refused | ⟨a, -, h⟩
    · obtain ⟨e, -, other⟩ := mapError_eq_error refused
      simp at other
    · cases h
  · rintro ⟨chains, r, ⟨hc, hr⟩, missing⟩
    rw [build_of_chains rfl hc hr]
    change (setup.chooseOrigin setup.effective r >>= _) = _
    rw [missing]
    rfl

/-- The origin of a scheduler that has been built. -/
structure Rooted (setup : Setup) (s : Scheduler) : Prop where
  chosen : ∀ key, FirstChoice setup.originChoices key ↔ key = s.originKey
  /-- It is one adapter in both tables, and of the right family. -/
  registered : ∃ i a, s.registry.positions.get? s.originKey = some i ∧
    s.registry.origins.get? s.originKey = some i ∧ s.registry.adapters[i]? = some a ∧
    s.registry.get s.originKey = .ok a ∧ s.origin = .ok a ∧ a.key = s.originKey ∧
    a.chain.family = .oak

theorem rooted_of_build (h : setup.build environment = .ok s) : setup.Rooted s := by
  obtain ⟨⟨chains, accepted⟩, hk, a, origin⟩ := of_build h
  have choice := chooseOrigin_eq_ok accepted hk
  have holds := Registry.holds_ofChains accepted.2
  refine ⟨?_, ?_⟩
  · intro key
    constructor
    · intro other
      exact other.unique choice
    · rintro rfl
      exact choice
  · obtain ⟨chain, member, ⟨named, oak⟩, rfl⟩ := holds.origin.mp origin
    obtain ⟨i, place⟩ := List.mem_iff_getElem?.mp member
    refine ⟨i, .new chain, ?_, ?_, ?_, ?_, origin, named, oak⟩
    · exact (holds.positions _ i).mpr ⟨chain, place, named, trivial⟩
    · exact (holds.origins _ i).mpr ⟨chain, place, named, oak⟩
    · rw [holds.adapters, List.getElem?_map, place]
      rfl
    · exact holds.get.mpr ⟨chain, member, named, rfl⟩

/-- A scheduler that is built has the first choice for its origin, and one adapter for it. When the
chains are accepted, the lack of any choice is told as such, and nothing else is. -/
theorem origin_is_first_choice (setup : Setup) (environment : Environment) :
    (∀ s, setup.build environment = .ok s → setup.Rooted s) ∧
      (setup.build environment = .error .missingOrigin ↔
        (∃ chains r, setup.Accepted environment chains r) ∧
          ∀ choice ∈ setup.originChoices, ∀ key, ¬ choice key) := by
  refine ⟨fun s h => rooted_of_build h, ?_⟩
  rw [build_eq_missingOrigin]
  constructor
  · rintro ⟨chains, r, accepted, missing⟩
    exact ⟨⟨chains, r, accepted⟩, (chooseOrigin_eq_missingOrigin accepted).mp missing⟩
  · rintro ⟨⟨chains, r, accepted⟩, nothing⟩
    exact ⟨chains, r, accepted, (chooseOrigin_eq_missingOrigin accepted).mpr nothing⟩

namespace Sample

def adding : Setup := ⟨some settings, [.moonbase, { Chain.turing with key := "alpha" }], none⟩

def rootless : Setup := ⟨none, [.moonbase, .mangata], none⟩

end Sample

/-- The origin that the settings offer goes before a smaller key that is added, and without any
origin nothing is built. -/
theorem origin_is_first_choice_turing :
    (∃ s, Sample.adding.build Sample.surroundings = .ok s ∧ s.originKey = "turing" ∧
        Sample.adding.Rooted s) ∧
      Sample.rootless.build [] = .error .missingOrigin := by
  refine ⟨?_, ?_⟩
  · have builds : ((Sample.adding.build Sample.surroundings).toOption.any fun s =>
        s.originKey == "turing") = true := by
      decide +kernel
    obtain ⟨s, found, key⟩ := (Option.any_eq_true _ _).mp builds
    have h := eq_ok_of_toOption found
    exact ⟨s, h, by simpa using key, (origin_is_first_choice _ _).1 s h⟩
  · have makes : (Registry.ofChains Sample.rootless.chains).toBool = true := by
      decide +kernel
    refine (origin_is_first_choice _ _).2.mpr ⟨?_, ?_⟩
    · cases hr : Registry.ofChains Sample.rootless.chains with
      | error e => simp [hr, Except.toBool] at makes
      | ok r => exact ⟨[], r, rfl, hr⟩
    · have others : ∀ chain ∈ Sample.rootless.chains, chain.family ≠ .oak := by
        decide
      have unoffered (key : String) : ¬ (default : Settings).Offers key := by
        rintro ⟨entry, found, -⟩
        cases found
      have unadded (key : String) : ¬ Sample.rootless.Adds key := by
        rintro ⟨chain, member, -, oak⟩
        exact others chain member oak
      simpa [originChoices, effective, Sample.rootless] using ⟨unoffered, unadded⟩

end Setup

end XcmTasks

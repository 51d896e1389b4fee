import XcmTasks.Proofs.Origin

/-!
What settings come to depends on their enabled entries only. Of an entry that is not enabled neither
the endpoint nor anything else is looked at, and it makes no difference whether it is there, even if
it is named as the origin. The enabled entries are converted in ascending order of their keys, all
of them or up to the first that fails.
-/

namespace XcmTasks

namespace Settings

variable {s s' : Settings} {environment : Environment} {key : String} {entry : ChainSettings}

/-! ### Enabled entries -/

def Enables (s : Settings) (key : String) (entry : ChainSettings) : Prop :=
  s.chains.get? key = some entry ∧ entry.enabled = true

theorem mem_enabled : (key, entry) ∈ s.enabled ↔ s.Enables key entry := by
  unfold enabled Enables
  rw [List.mem_filter, Table.get?_eq_some_iff]

/-- The enabled entry under the key, if there is one, makes no chain. -/
def Fails (s : Settings) (environment : Environment) (key : String) : Prop :=
  ∃ entry e, s.Enables key entry ∧ entry.toChain environment key = .error e

/-- What the enabled entries come to: a chain for each of them, in ascending order of their keys, or
what is wrong with the one under the smallest key among those that make no chain. -/
inductive Gathers (s : Settings) (environment : Environment) :
    Except SettingsError (List Chain) → Prop where
  | all {chains : List Chain} (ascending : (chains.map Chain.key).Pairwise (· < ·))
      (made : ∀ chain, chain ∈ chains ↔ ∃ entry, s.Enables chain.key entry ∧
        entry.toChain environment chain.key = .ok chain)
      (every : ∀ key entry, s.Enables key entry →
        ∃ chain ∈ chains, chain.key = key ∧ entry.toChain environment key = .ok chain) :
      Gathers s environment (.ok chains)
  | refused {key : String} {entry : ChainSettings} {e : SettingsError}
      (smallest : Smallest (s.Fails environment) key) (enabled : s.Enables key entry)
      (wrong : entry.toChain environment key = .error e) : Gathers s environment (.error e)

theorem gathers_of_ok {chains : List Chain} (h : s.enabledChains environment = .ok chains) :
    Gathers s environment (.ok chains) := by
  have every : ∀ key entry, s.Enables key entry →
      ∃ chain ∈ chains, chain.key = key ∧ entry.toChain environment key = .ok chain := by
    intro key entry enabled
    obtain ⟨chain, member, made⟩ := exists_of_mapM_eq_ok h _ (mem_enabled.mpr enabled)
    exact ⟨chain, member, (ChainSettings.of_toChain made).1, made⟩
  refine .all ?ascending ?made every
  case ascending =>
    rw [keys_of_enabledChains h]
    exact s.enabledKeys_ascending
  case made =>
    intro chain
    constructor
    · intro member
      obtain ⟨⟨key, entry⟩, enabled, made⟩ := mapM_eq_ok h chain member
      obtain rfl : chain.key = key := (ChainSettings.of_toChain made).1
      exact ⟨entry, mem_enabled.mp enabled, made⟩
    · rintro ⟨entry, enabled, made⟩
      obtain ⟨chain', member, -, made'⟩ := every _ entry enabled
      cases made.symm.trans made'
      exact member

/-- What is looked for among the enabled entries is one that makes no chain. -/
theorem fails_iff : s.Fails environment key ↔ ∃ e ∈ s.enabled, e.1 = key ∧
    (!(e.2.toChain environment e.1).toBool) = true := by
  constructor
  · rintro ⟨entry, e, enabled, wrong⟩
    exact ⟨(key, entry), mem_enabled.mpr enabled, rfl, by simp [wrong, Except.toBool]⟩
  · rintro ⟨⟨key, entry⟩, enabled, rfl, unmade⟩
    cases made : entry.toChain environment key with
    | ok chain => simp [made, Except.toBool] at unmade
    | error e => exact ⟨entry, e, mem_enabled.mp enabled, made⟩

theorem gathers_of_error {e : SettingsError} (h : s.enabledChains environment = .error e) :
    Gathers s environment (.error e) := by
  obtain ⟨⟨key, entry⟩, found, wrong⟩ := find?_of_mapM_eq_error h
  have smallest := smallest_of_find? s.enabledKeys_ascending found
  simp only [← fails_iff] at smallest
  exact .refused smallest (mem_enabled.mp (List.mem_of_find?_eq_some found)) wrong

theorem gathers_enabledChains (s : Settings) (environment : Environment) :
    Gathers s environment (s.enabledChains environment) := by
  cases h : s.enabledChains environment with
  | ok chains => exact gathers_of_ok h
  | error e => exact gathers_of_error h

/-! ### Settings with the same enabled entries -/

/-- The settings agree but for entries that are not enabled. -/
structure SameEnabled (s s' : Settings) : Prop where
  enables : ∀ key entry, s.Enables key entry ↔ s'.Enables key entry
  logging : s.logging = s'.logging
  scheduler : s.scheduler = s'.scheduler

theorem sameEnabled_insert (disabled : entry.enabled = false)
    (free : ∀ other, ¬s.Enables key other) :
    SameEnabled s { s with chains := s.chains.insert key entry } := by
  refine ⟨?_, rfl, rfl⟩
  intro key' entry'
  unfold Enables at free ⊢
  rw [Table.get?_insert]
  by_cases here : key' = key
  · subst here
    rw [if_pos rfl]
    constructor
    · intro enables
      exact absurd enables (free entry')
    · rintro ⟨same, enabled⟩
      cases same
      cases disabled.symm.trans enabled
  · rw [if_neg here]

namespace SameEnabled

/-- Two ascending lists with the same entries are one. -/
theorem enabled_eq (h : SameEnabled s s') : s.enabled = s'.enabled := by
  refine List.Pairwise.eq_of_mem_iff s.enabled_ascending s'.enabled_ascending ?_
  rintro ⟨key, entry⟩
  rw [mem_enabled, mem_enabled, h.enables]

theorem enabledChains_eq (h : SameEnabled s s') (environment : Environment) :
    s.enabledChains environment = s'.enabledChains environment := by
  unfold enabledChains
  rw [h.enabled_eq]

theorem originKey_eq (h : SameEnabled s s') : s.originKey = s'.originKey := by
  unfold originKey
  rw [h.enabled_eq, h.scheduler]

theorem validate_eq (h : SameEnabled s s') (environment : Environment) :
    s.validate environment = s'.validate environment := by
  unfold validate
  rw [h.enabledChains_eq, h.originKey_eq]

theorem build_eq (h : SameEnabled s s') (environment : Environment) (chains : List Chain)
    (origin : Option String) :
    (⟨some s, chains, origin⟩ : Setup).build environment =
      (⟨some s', chains, origin⟩ : Setup).build environment := by
  have chosen (r : Registry) : (⟨some s, chains, origin⟩ : Setup).chooseOrigin s r =
      (⟨some s', chains, origin⟩ : Setup).chooseOrigin s' r := by
    unfold Setup.chooseOrigin
    rw [h.originKey_eq]
  unfold Setup.build
  simp only [Option.getD_some, h.enabledChains_eq environment, chosen]

end SameEnabled

/-- Entries that are not enabled make no difference, to the chains, the origin, the check and what
is built. And what the enabled ones come to is told by themselves. -/
theorem told_by_enabled :
    (∀ s s' : Settings, SameEnabled s s' → ∀ environment,
      s.enabledChains environment = s'.enabledChains environment ∧ s.originKey = s'.originKey ∧
        s.validate environment = s'.validate environment ∧
        ∀ chains origin, (⟨some s, chains, origin⟩ : Setup).build environment =
          (⟨some s', chains, origin⟩ : Setup).build environment) ∧
    ∀ (s : Settings) (environment : Environment),
      Gathers s environment (s.enabledChains environment) := by
  refine ⟨?_, gathers_enabledChains⟩
  intro s s' same environment
  exact ⟨same.enabledChains_eq environment, same.originKey_eq, same.validate_eq environment,
    same.build_eq environment⟩

namespace Sample

open Setup.Sample (settings surroundings)

def bare : Settings := { settings with scheduler := ⟨some "alpha", 30000⟩ }

def broken : ChainSettings :=
  { Setup.Sample.entry .turing with endpoint := .env "NOWHERE", enabled := false }

/-- That entry is the origin named, but it is not enabled. -/
def cluttered : Settings := { bare with chains := bare.chains.insert "alpha" broken }

theorem sameEnabled : SameEnabled bare cluttered := by
  have free : bare.chains.get? "alpha" = none := by decide +kernel
  refine sameEnabled_insert rfl ?_
  rintro other ⟨found, -⟩
  cases free.symm.trans found

end Sample

/-- An entry that would fail and is named as the origin is as good as none. -/
theorem told_by_enabled_turing :
    SameEnabled Sample.bare Sample.cluttered ∧
      Sample.broken.toChain Setup.Sample.surroundings "alpha" =
        .error (.unresolvedEndpoint "alpha" "NOWHERE") ∧
      Sample.cluttered.originKey = .error (.unknownOrigin "alpha") ∧
      Sample.cluttered.validate Setup.Sample.surroundings = .error (.unknownOrigin "alpha") := by
  obtain ⟨told, -⟩ := told_by_enabled
  obtain ⟨-, origin, checked, -⟩ := told _ _ Sample.sameEnabled Setup.Sample.surroundings
  rw [← origin, ← checked]
  exact ⟨Sample.sameEnabled, rfl, rfl, by decide +kernel⟩

end Settings

end XcmTasks

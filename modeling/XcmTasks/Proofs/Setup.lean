import XcmTasks.Chain.Local
import XcmTasks.Proofs.Registering
import XcmTasks.Scheduler

/-!
Settings alone as a setup. Settings are checked in one way and built from in another: a check looks
at the entries, and building registers the chains that they make and then looks for the origin among
the adapters. Both accept the same settings and refuse the others for the same reason.
-/

namespace XcmTasks

variable {environment : Environment}

/-! ### Chains from settings -/

namespace ChainSettings

variable {s : ChainSettings} {key : String}

theorem indices_ne_missingOrigin : s.indices key ≠ .error .missingOrigin := by
  intro h
  obtain ⟨indices, entry, -, h⟩ := foldlM_eq_error h
  cases hn : CallEntry.names? entry.call <;> simp [hn] at h

def chainAt (s : ChainSettings) (key endpoint : String) (indices : CallIndices) : Chain where
  key := key
  family := s.family
  network := s.network
  relayChain := s.relayChain
  endpoint := endpoint
  paraId := s.paraId
  accountKind := s.accountKind
  defaultAsset := { s.defaultAsset with isNative := true }
  assets := s.assets
  instructionWeight := s.instructionWeight
  derivation := s.derivation
  callIndices := indices

/-- What an entry may come to. -/
inductive Makes (s : ChainSettings) (environment : Environment) (key : String) :
    Except SettingsError Chain → Prop where
  | unresolved {name : String} (hr : s.endpoint.resolve environment = .error name) :
      Makes s environment key (.error (.unresolvedEndpoint key name))
  | unreachable {endpoint reason : String} (hr : s.endpoint.resolve environment = .ok endpoint)
      (hf : endpointFault? endpoint = some reason) :
      Makes s environment key (.error (.invalidEndpoint key endpoint reason))
  | unnamed {endpoint : String} {e : SettingsError}
      (hr : s.endpoint.resolve environment = .ok endpoint) (hf : endpointFault? endpoint = none)
      (hi : s.indices key = .error e) : Makes s environment key (.error e)
  | invalid {endpoint : String} {indices : CallIndices} {e : ChainError}
      (hr : s.endpoint.resolve environment = .ok endpoint) (hf : endpointFault? endpoint = none)
      (hi : s.indices key = .ok indices)
      (hv : (s.chainAt key endpoint indices).validate = .error e) :
      Makes s environment key (.error (.chain e))
  | made {endpoint : String} {indices : CallIndices}
      (hr : s.endpoint.resolve environment = .ok endpoint) (hf : endpointFault? endpoint = none)
      (hi : s.indices key = .ok indices)
      (hv : (s.chainAt key endpoint indices).validate = .ok ()) :
      Makes s environment key (.ok (s.chainAt key endpoint indices))

theorem makes_toChain (s : ChainSettings) (environment : Environment) (key : String) :
    Makes s environment key (s.toChain environment key) := by
  unfold toChain
  cases hr : s.endpoint.resolve environment with
  | error name => exact .unresolved hr
  | ok endpoint =>
    simp only [pure_bind]
    cases hf : endpointFault? endpoint with
    | some reason => exact .unreachable hr hf
    | none =>
      cases hi : s.indices key with
      | error e => exact .unnamed hr hf hi
      | ok indices =>
        change Makes s environment key (Except.bind (.ok indices) _)
        rw [Except.bind]
        split
        case h_1 hv => exact .made hr hf hi hv
        case h_2 e hv => exact .invalid hr hf hi hv

theorem of_toChain {chain : Chain} (h : s.toChain environment key = .ok chain) :
    chain.key = key ∧ chain.family = s.family ∧ chain.validate = .ok () := by
  have makes := s.makes_toChain environment key
  rw [h] at makes
  cases makes with
  | made _ _ _ hv => exact ⟨rfl, rfl, hv⟩

/-- What is wrong with an entry is never the lack of an origin. -/
theorem toChain_ne_missingOrigin : s.toChain environment key ≠ .error .missingOrigin := by
  intro h
  have makes := s.makes_toChain environment key
  rw [h] at makes
  cases makes with
  | unnamed _ _ hi => exact indices_ne_missingOrigin hi

end ChainSettings

namespace Settings

variable {s : Settings} {chains : List Chain}

theorem enabled_ascending (s : Settings) : s.enabled.Pairwise Precedes :=
  s.chains.ascending.filter _

theorem enabledKeys_ascending (s : Settings) : (s.enabled.map Prod.fst).Pairwise (· < ·) :=
  List.pairwise_map.mpr s.enabled_ascending

theorem of_mapM_toChain {entries : List (String × ChainSettings)}
    (h : (entries.mapM fun e => e.2.toChain environment e.1) = .ok chains) :
    chains.map (fun c => (c.key, c.family)) = entries.map (fun e => (e.1, e.2.family)) ∧
      ∀ chain ∈ chains, chain.validate = .ok () := by
  induction entries generalizing chains with
  | nil =>
    cases h
    simp
  | cons e entries ih =>
    rw [List.mapM_cons] at h
    obtain ⟨chain, hc, h⟩ := bind_eq_ok h
    obtain ⟨others, ho, h⟩ := bind_eq_ok h
    cases h
    obtain ⟨hk, hf, hv⟩ := ChainSettings.of_toChain hc
    obtain ⟨hm, hvs⟩ := ih ho
    exact ⟨by simp [hk, hf, hm], List.forall_mem_cons.mpr ⟨hv, hvs⟩⟩

theorem enabledChains_ne_missingOrigin : s.enabledChains environment ≠ .error .missingOrigin := by
  intro h
  obtain ⟨e, -, he⟩ := mapM_eq_error h
  exact ChainSettings.toChain_ne_missingOrigin he

theorem keys_of_enabledChains (h : s.enabledChains environment = .ok chains) :
    chains.map Chain.key = s.enabled.map Prod.fst := by
  have keys := congrArg (List.map Prod.fst) (of_mapM_toChain h).1
  rw [List.map_map, List.map_map] at keys
  exact keys

theorem nodup_of_enabledChains (h : s.enabledChains environment = .ok chains) :
    (chains.map Chain.key).Nodup := by
  rw [keys_of_enabledChains h]
  refine s.enabledKeys_ascending.imp ?_
  intro a b hlt he
  exact String.lt_irrefl b (he ▸ hlt)

/-- A family is that of an enabled entry just if it is that of the chain with its key. -/
theorem family_of_enabledChains (h : s.enabledChains environment = .ok chains) (key : String)
    (family : ChainFamily) :
    (∃ chain ∈ chains, chain.key = key ∧ chain.family = family) ↔
      ∃ e ∈ s.enabled, e.1 = key ∧ e.2.family = family := by
  have same : (key, family) ∈ chains.map (fun c => (c.key, c.family)) ↔
      (key, family) ∈ s.enabled.map (fun e => (e.1, e.2.family)) := by
    rw [(of_mapM_toChain h).1]
  simpa only [List.mem_map, Prod.mk.injEq] using same

/-! ### The origin in settings -/

theorem enabled_of_originKey {key : String} (h : s.originKey = .ok key) :
    ∃ e ∈ s.enabled, e.1 = key ∧ e.2.family = .oak := by
  unfold originKey at h
  split at h
  case h_1 named _ =>
    split at h
    case h_1 => cases h
    case h_2 entry hl =>
      split at h
      case isTrue hf =>
        cases h
        exact ⟨(key, entry), (Table.lookup_eq_some_iff s.enabled_ascending).mp hl, rfl, hf⟩
      case isFalse => cases h
  case h_2 =>
    split at h
    case h_1 e hfind =>
      cases h
      exact ⟨e, List.mem_of_find?_eq_some hfind, rfl, by simpa using List.find?_some hfind⟩
    case h_2 => cases h

/-- Settings lack an origin only without an enabled chain of its family. -/
theorem family_of_missingOrigin (h : s.originKey = .error .missingOrigin) :
    ∀ e ∈ s.enabled, e.2.family ≠ .oak := by
  unfold originKey at h
  split at h
  case h_1 =>
    split at h
    case h_1 => cases h
    case h_2 => split at h <;> cases h
  case h_2 =>
    split at h
    case h_1 => cases h
    case h_2 hfind => simpa using hfind

theorem validate_of_enabledChains (h : s.enabledChains environment = .ok chains) :
    s.validate environment = s.originKey.map fun _ => () := by
  unfold validate
  rw [h]
  cases s.originKey <;> rfl

theorem validate_of_refused {e : SettingsError} (h : s.enabledChains environment = .error e) :
    s.validate environment = .error e := by
  unfold validate
  rw [h]
  rfl

end Settings

/-! ### Building -/

def SetupError.ofSettings : SettingsError → SetupError
  | .missingOrigin => .missingOrigin
  | e => .settings e

namespace Setup

variable {s : Settings} {chains : List Chain}

def ofSettings (s : Settings) : Setup := ⟨some s, [], none⟩

/-- What is built over a registry, once its chains are there. -/
def buildOver (setup : Setup) (settings : Settings) (r : Registry) :
    Except SetupError Scheduler := do
  let key ← setup.chooseOrigin settings r
  let _ ← (r.origin key).mapError .adapter
  return ⟨r, key⟩

theorem build_of_chains {setup : Setup} {settings : Settings} {r : Registry}
    (hs : setup.settings.getD default = settings)
    (hc : settings.enabledChains environment = .ok chains)
    (hr : Registry.ofChains (chains ++ setup.chains) = .ok r) :
    setup.build environment = setup.buildOver settings r := by
  subst hs
  unfold build
  simp only [hc]
  change ((Registry.ofChains (chains ++ setup.chains)).mapError SetupError.adapter >>= _) = _
  rw [hr]
  rfl

theorem build_of_refused {setup : Setup} {settings : Settings} {e : SettingsError}
    (hs : setup.settings.getD default = settings)
    (hc : settings.enabledChains environment = .error e) :
    setup.build environment = .error (.settings e) := by
  subst hs
  unfold build
  simp only [hc]
  rfl

theorem firstOrigin_eq_error {r : Registry} (h : ∀ key a, r.origin key ≠ .ok a) :
    firstOrigin r = .error .missingOrigin := by
  have nowhere : r.keys.find? (fun key => (r.origin key).toBool) = none := by
    rw [List.find?_eq_none]
    intro key _
    cases ho : r.origin key with
    | error e => exact Bool.false_ne_true
    | ok a => exact absurd ho (h key a)
  unfold firstOrigin
  rw [nowhere]

/-- The settings' own choice of the origin is kept, and so is what is wrong with it. -/
theorem buildOver_of_holds {r : Registry} (hc : s.enabledChains environment = .ok chains)
    (hr : Registry.Holds chains r) :
    (ofSettings s).buildOver s r =
      (s.originKey.mapError SetupError.ofSettings).map (Scheduler.mk r) := by
  unfold buildOver chooseOrigin
  cases ho : s.originKey with
  | ok key =>
    have entry := Settings.enabled_of_originKey ho
    obtain ⟨chain, hm, hk⟩ := (Settings.family_of_enabledChains hc key .oak).mpr entry
    have origin := hr.origin.mpr ⟨chain, hm, hk, rfl⟩
    change ((r.origin key).mapError SetupError.adapter >>= _) = _
    rw [origin]
    rfl
  | error e =>
    cases e with
    | missingOrigin =>
      have nowhere : ∀ key a, r.origin key ≠ .ok a := by
        intro key a origin
        obtain ⟨chain, hm, hk, -⟩ := hr.origin.mp origin
        obtain ⟨e, he, -, hf⟩ := (Settings.family_of_enabledChains hc key .oak).mp ⟨chain, hm, hk⟩
        exact Settings.family_of_missingOrigin ho e he hf
      change (firstOrigin r >>= _) = _
      rw [firstOrigin_eq_error nowhere]
      rfl
    | _ => rfl

/-! ### Checking and building -/

/-- The scheduler is the one that the settings describe. -/
structure Follows (s : Settings) (environment : Environment) (scheduler : Scheduler) : Prop where
  origin : s.originKey = .ok scheduler.originKey
  keys : scheduler.registry.keys = s.enabled.map Prod.fst
  ascending : scheduler.registry.keys.Pairwise (· < ·)
  chains : ∃ chains, s.enabledChains environment = .ok chains ∧
    ∀ key a, scheduler.registry.get key = .ok a ↔ ∃ chain ∈ chains, chain.key = key ∧ a = .new chain

theorem keys_of_holds {r : Registry} (hc : s.enabledChains environment = .ok chains)
    (hr : Registry.Holds chains r) : r.keys = s.enabled.map Prod.fst := by
  refine List.Pairwise.eq_of_mem_iff r.positions.keys_ascending s.enabledKeys_ascending ?_
  intro key
  rw [← Settings.keys_of_enabledChains hc]
  simpa using hr.mem_keys

/-- How a check and a building of the same settings go together. -/
inductive Accord (s : Settings) (environment : Environment) :
    Except SettingsError Unit → Except SetupError Scheduler → Prop where
  | refused (e : SettingsError) : Accord s environment (.error e) (.error (.ofSettings e))
  | built {scheduler : Scheduler} (h : Follows s environment scheduler) :
      Accord s environment (.ok ()) (.ok scheduler)

theorem accord (s : Settings) (environment : Environment) :
    Accord s environment (s.validate environment) ((ofSettings s).build environment) := by
  have hs : (ofSettings s).settings.getD default = s := rfl
  cases hc : s.enabledChains environment with
  | error e =>
    -- building passes on what is wrong with an entry as it is, and that is never a missing origin
    have plain : SetupError.ofSettings e = .settings e := by
      cases e with
      | missingOrigin => exact absurd hc Settings.enabledChains_ne_missingOrigin
      | _ => rfl
    rw [Settings.validate_of_refused hc, build_of_refused hs hc, ← plain]
    exact .refused e
  | ok chains =>
    obtain ⟨r, hr⟩ := Registry.exists_ofChains (Settings.nodup_of_enabledChains hc)
      (Settings.of_mapM_toChain hc).2
    have holds := Registry.holds_ofChains hr
    have all : Registry.ofChains (chains ++ (ofSettings s).chains) = .ok r := by
      change Registry.ofChains (chains ++ []) = .ok r
      rw [List.append_nil, hr]
    rw [Settings.validate_of_enabledChains hc, build_of_chains hs hc all,
      buildOver_of_holds hc holds]
    cases ho : s.originKey with
    | error e => exact .refused e
    | ok key =>
      have keys := keys_of_holds hc holds
      exact .built ⟨ho, keys, r.positions.keys_ascending, chains, hc, fun _ _ => holds.get⟩

/-- Settings are built from just if they pass the check. What is built follows them, and what fails
fails for what the check finds. -/
theorem build_ofSettings (s : Settings) (environment : Environment) :
    ((∃ scheduler, (ofSettings s).build environment = .ok scheduler) ↔
        s.validate environment = .ok ()) ∧
      (∀ scheduler, (ofSettings s).build environment = .ok scheduler →
        Follows s environment scheduler) ∧
      ∀ e, s.validate environment = .error e →
        (ofSettings s).build environment = .error (.ofSettings e) := by
  have agree := accord s environment
  generalize s.validate environment = checked at agree ⊢
  generalize (ofSettings s).build environment = built at agree ⊢
  cases agree with
  | refused e => simp
  | built h =>
    refine ⟨⟨fun _ => rfl, fun _ => ⟨_, rfl⟩⟩, ?_, ?_⟩
    · intro scheduler he
      cases he
      exact h
    · intro e he
      cases he

namespace Sample

def entry (chain : Chain) : ChainSettings where
  family := chain.family
  network := chain.network
  relayChain := chain.relayChain
  endpoint := .env "NODE"
  paraId := chain.paraId
  accountKind := chain.accountKind
  defaultAsset := chain.defaultAsset
  assets := chain.assets
  instructionWeight := chain.instructionWeight
  derivation := chain.derivation
  callIndices := []
  enabled := true

def settings : Settings where
  chains := .ofList [("turing", entry .turing), ("moonbase", entry .moonbase)]
  logging := default
  scheduler := default

def surroundings : Environment := [("NODE", "ws://node:9944")]

theorem validated : settings.validate surroundings = .ok () := by
  apply eq_ok_of_toOption
  decide +kernel

end Sample

/-- Two chains are built from, and tasks are scheduled on the one of the right family. -/
theorem build_ofSettings_turing :
    ∃ scheduler, (ofSettings Sample.settings).build Sample.surroundings = .ok scheduler ∧
      scheduler.originKey = "turing" ∧ scheduler.registry.keys = ["moonbase", "turing"] ∧
      Follows Sample.settings Sample.surroundings scheduler := by
  obtain ⟨built, follows, -⟩ := build_ofSettings Sample.settings Sample.surroundings
  obtain ⟨scheduler, h⟩ := built.mpr Sample.validated
  have keys := (follows scheduler h).keys
  have origin := (follows scheduler h).origin
  refine ⟨scheduler, h, ?_, ?_, follows scheduler h⟩
  · have first : Sample.settings.originKey = .ok "turing" := by rfl
    exact (Except.ok.inj (first.symm.trans origin)).symm
  · rw [keys]
    decide +kernel

end Setup

end XcmTasks

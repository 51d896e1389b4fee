import Mathlib.Data.List.Induction
import XcmTasks.Proofs.Linking
import XcmTasks.Proofs.Scheduler
import XcmTasks.Proofs.Setup

/-!
Connecting all chains of a scheduler, or none. The chains are attempted in ascending order of their
keys up to the first that fails, and then those before it are disconnected again. In which order
adapters are disconnected makes no difference to what becomes of them.
-/

namespace XcmTasks

open Dialogue hiding bind_assoc

namespace Registry

variable {chains : List Chain} {r r' : Registry} {t : Transcript}

/-! ### All adapters of a registry -/

/-- The positions of the adapters, in ascending order of the keys. -/
def order (r : Registry) : List Nat := r.positions.entries.map Prod.snd

def ordered (r : Registry) : List Adapter := r.view r.order

def released (r : Registry) : Registry :=
  { r with adapters := r.adapters.map fun a => .new a.chain }

/-- The registry holds the adapters of these chains under their keys, linked or not. -/
structure Placed (chains : List Chain) (r : Registry) : Prop where
  adapters : r.adapters.map Adapter.chain = chains
  positions : Places (fun _ => True) chains r.positions

theorem Holds.placed (h : Holds chains r) : Placed chains r := by
  refine ⟨?_, h.positions⟩
  rw [h.adapters, List.map_map]
  exact List.map_id _

theorem Relinked.placed (h : Relinked r r') (hp : Placed chains r) : Placed chains r' := by
  refine ⟨h.chains.trans hp.adapters, ?_⟩
  rw [h.positions]
  exact hp.positions

theorem Relinked.order (h : Relinked r r') : r'.order = r.order := by
  unfold Registry.order
  rw [h.positions]

theorem Placed.length (h : Placed chains r) : chains.length = r.adapters.length := by
  rw [← h.adapters, List.length_map]

theorem mem_order {position : Nat} :
    position ∈ r.order ↔ ∃ key, r.positions.get? key = some position := by
  simp [Registry.order, Table.get?_eq_some_iff]

theorem Placed.mem_order (h : Placed chains r) {position : Nat} :
    position ∈ r.order ↔ position < r.adapters.length := by
  rw [Registry.mem_order, ← h.length]
  refine ⟨?_, ?_⟩
  · rintro ⟨key, hk⟩
    obtain ⟨chain, hc, -⟩ := (h.positions key position).mp hk
    exact (List.getElem?_eq_some_iff.mp hc).1
  · intro inside
    have hc := List.getElem?_eq_getElem inside
    exact ⟨chains[position].key, (h.positions _ position).mpr ⟨_, hc, rfl, trivial⟩⟩

/-- Each adapter has one position, as its chain has one key. -/
theorem Placed.nodup_order (h : Placed chains r) : r.order.Nodup := by
  refine List.pairwise_map.mpr (r.positions.ascending.imp_of_mem ?_)
  intro a b ha hb less same
  obtain ⟨chain, hc, hk, -⟩ := (h.positions a.1 a.2).mp (Table.get?_eq_some_iff.mpr ha)
  obtain ⟨chain', hc', hk', -⟩ := (h.positions b.1 b.2).mp (Table.get?_eq_some_iff.mpr hb)
  rw [same, hc'] at hc
  cases hc
  have smaller : a.1 < b.1 := less
  rw [← hk, hk'] at smaller
  exact String.lt_irrefl _ smaller

theorem Placed.order_perm (h : Placed chains r) :
    r.order.Perm (List.range r.adapters.length) := by
  refine (List.perm_ext_iff_of_nodup h.nodup_order List.nodup_range).mpr ?_
  intro position
  rw [h.mem_order, List.mem_range]

theorem filterMap_range_getElem? {α : Type} (as : List α) :
    (List.range as.length).filterMap (fun i => as[i]?) = as := by
  induction as using List.reverseRecOn with
  | nil => rfl
  | append_singleton as a ih =>
    rw [List.length_append, List.length_singleton, List.range_succ, List.filterMap_append]
    have before : (List.range as.length).filterMap (fun i => (as ++ [a])[i]?) = as := by
      refine Eq.trans (List.filterMap_congr ?_) ih
      intro i hi
      exact List.getElem?_append_left (List.mem_range.mp hi)
    rw [before]
    simp

theorem Placed.ordered_perm (h : Placed chains r) : r.ordered.Perm r.adapters := by
  have all := h.order_perm.filterMap fun position => r.adapters[position]?
  rw [filterMap_range_getElem?] at all
  exact all

theorem Placed.keys_ordered (h : Placed chains r) :
    (r.ordered.map Adapter.chain).map Chain.key = r.keys := by
  have found : ∀ e ∈ r.positions.entries, ∃ a, r.adapters[e.2]? = some a ∧ a.key = e.1 := by
    intro e he
    obtain ⟨chain, hc, hk, -⟩ := (h.positions e.1 e.2).mp (Table.get?_eq_some_iff.mpr he)
    rw [← h.adapters, List.getElem?_map] at hc
    obtain ⟨a, ha, rfl⟩ := Option.map_eq_some_iff.mp hc
    exact ⟨a, ha, hk⟩
  unfold ordered order Registry.keys Table.keys
  generalize r.positions.entries = entries at found
  induction entries with
  | nil => rfl
  | cons e entries ih =>
    obtain ⟨⟨a, ha, hk⟩, found⟩ := List.forall_mem_cons.mp found
    rw [List.map_cons, List.map_cons, view_cons ha, List.map_cons, List.map_cons, ih found]
    exact congrArg (· :: _) hk

/-! ### Connecting and disconnecting all of them -/

theorem Holds.idle (h : Holds chains r) :
    ∀ position ∈ r.order, ∃ chain, r.adapters[position]? = some (.new chain) := by
  intro position hp
  have inside := h.placed.mem_order.mp hp
  rw [← h.placed.length] at inside
  refine ⟨chains[position], ?_⟩
  rw [h.adapters, List.getElem?_map, List.getElem?_eq_getElem inside]
  rfl

theorem Holds.unready (h : Holds chains r) : ∀ a ∈ r.adapters, a.isReady = false := by
  rw [h.adapters]
  intro a ha
  obtain ⟨chain, -, rfl⟩ := List.mem_map.mp ha
  rfl

theorem Holds.released_of_relinked (h : Holds chains r) (hl : Relinked r r') : r'.released = r := by
  have adapters : (r'.adapters.map fun a => Adapter.new a.chain) = r.adapters := by
    change r'.adapters.map (Adapter.new ∘ Adapter.chain) = r.adapters
    rw [← List.map_map, hl.chains, h.placed.adapters, h.adapters]
  unfold released
  rw [adapters, hl.positions, hl.origins]

theorem opening_of_connectAll {result : Except AdapterError Unit} (h : Holds chains r)
    (hr : Runs r.connectAll t (result, r')) :
    Opening (r.ordered.map Adapter.chain) t result r'.ordered := by
  have opening := (opening_of_connectEach h.placed.nodup_order h.idle hr).1
  unfold ordered
  rw [(relinked_connectEach hr).order]
  exact opening

/-- In whichever order the adapters are come to, those that are linked have their links ended, and
then none has one. -/
theorem released_of_disconnectEach {positions : List Nat} (h : Placed chains r)
    (hv : positions.Perm r.order) (hr : Runs (disconnectEach positions r) t r') :
    r' = r.released ∧
      (t.map Sigma.fst).Perm
        ((r.adapters.filterMap Adapter.link).map fun link => .send link .disconnect) := by
  have all : ∀ position, position ∈ positions ↔ position < r.adapters.length := by
    intro position
    rw [hv.mem_iff, h.mem_order]
  have relinked := relinked_disconnectEach hr
  obtain ⟨closing, unlinked, beyond⟩ := closing_of_disconnectEach (hv.nodup_iff.mpr h.nodup_order)
    (fun position => (all position).mp) hr
  refine ⟨?_, ?_⟩
  · have adapters : r'.adapters = r.adapters.map fun a => .new a.chain := by
      apply List.ext_getElem?
      intro position
      rw [List.getElem?_map]
      by_cases hp : position ∈ positions
      · exact unlinked position hp
      · have outside : r.adapters[position]? = none := by
          rw [List.getElem?_eq_none_iff]
          exact Nat.le_of_not_lt fun inside => hp ((all position).mpr inside)
        rw [beyond position hp, outside]
        rfl
    obtain ⟨adapters', positions', origins'⟩ := r'
    cases relinked.positions
    cases relinked.origins
    cases adapters
    rfl
  · have visited : (r.view positions).Perm r.adapters :=
      (hv.filterMap fun position => r.adapters[position]?).trans h.ordered_perm
    rw [closing.asked]
    exact (visited.filterMap Adapter.link).map _

theorem links_ordered (h : Placed chains r) :
    (r.ordered.filterMap Adapter.link).Perm (r.adapters.filterMap Adapter.link) :=
  h.ordered_perm.filterMap Adapter.link

end Registry

/-! ### Starting and shutting down -/

namespace Scheduler

def chains (s : Scheduler) : List Chain := s.registry.ordered.map Adapter.chain

/-- The end of a scheduler, with the adapters come to in an order of choice. -/
def shutdownVisiting (visit : Registry → List Nat) (s : Scheduler) : Talk Scheduler := do
  return { s with registry := ← Registry.disconnectEach (visit s.registry) s.registry }

/-- Connects all chains, or none, with an order of choice to go back in. -/
def connectVisiting (visit : Registry → List Nat) (s : Scheduler) :
    Talk (Except SetupError Unit × Scheduler) := do
  match ← s.registry.connectAll with
  | (.ok (), registry) => return (.ok (), { s with registry := registry })
  | (.error e, registry) =>
    return (.error (.adapter e), ← shutdownVisiting visit { s with registry := registry })

theorem shutdownVisiting_order (s : Scheduler) : s.shutdownVisiting Registry.order = s.shutdown :=
  rfl

end Scheduler

/-- Builds a scheduler and connects it, with an order of choice to go back in. -/
def Setup.startVisiting (visit : Registry → List Nat) (setup : Setup) (environment : Environment) :
    Talk (Except SetupError Scheduler) := do
  match setup.build environment with
  | .error e => return .error e
  | .ok s =>
    let (result, s) ← s.connectVisiting visit
    return result.map fun _ => s

namespace Scheduler

open Registry

variable {s s' : Scheduler} {t : Transcript} {visit : Registry → List Nat}

/-- What connecting a scheduler comes to. All attempts succeed, or one fails, and then each link
that there was by then is given up. -/
inductive Started (s : Scheduler) : Transcript → Except SetupError Unit → Scheduler → Prop where
  | connected {links : List Link} {registry : Registry} (hl : links.length = s.chains.length)
      (same : Relinked s.registry registry) (all : registry.ordered = linked s.chains links)
      (ready : ∀ a ∈ registry.adapters, a.isReady = true) :
      Started s (attempts s.chains links) (.ok ()) { s with registry := registry }
  | undone {before after : List Chain} {chain : Chain} {links : List Link} {e : NodeError}
      {closing : Transcript} (hs : s.chains = before ++ chain :: after)
      (hl : links.length = before.length)
      (ended : (closing.map Sigma.fst).Perm (links.map fun link => .send link .disconnect))
      (unready : ∀ a ∈ s.registry.adapters, a.isReady = false) :
      Started s (attempts before links ++ ⟨.connect chain, .error e⟩ :: closing)
        (.error (.adapter (.ofNode e))) s

/-- What shutting a scheduler down comes to. Each link is ended once, and there are none left. -/
structure Ended (s : Scheduler) (t : Transcript) (s' : Scheduler) : Prop where
  released : s' = { s with registry := s.registry.released }
  unready : ∀ a ∈ s'.registry.adapters, a.isReady = false
  asked : (t.map Sigma.fst).Perm
    ((s.registry.adapters.filterMap Adapter.link).map fun link => .send link .disconnect)

theorem ended_of_shutdownVisiting {chains : List Chain} (h : Placed chains s.registry)
    (hv : (visit s.registry).Perm s.registry.order)
    (hr : Runs (s.shutdownVisiting visit) t s') : Ended s t s' := by
  unfold shutdownVisiting at hr
  rw [runs_bind] at hr
  obtain ⟨t, t₂, registry, hd, hr, rfl⟩ := hr
  obtain ⟨rfl, rfl⟩ := runs_pure.mp hr
  obtain ⟨rfl, asked⟩ := released_of_disconnectEach h hv hd
  rw [List.append_nil]
  refine ⟨rfl, ?_, asked⟩
  intro a ha
  obtain ⟨b, -, rfl⟩ := List.mem_map.mp ha
  rfl

theorem ready_of_linked {chains : List Chain} {links : List Link} :
    ∀ a ∈ linked chains links, a.isReady = true := by
  intro a ha
  obtain ⟨i, hi⟩ := List.mem_iff_getElem?.mp ha
  obtain ⟨chain, link, -, -, rfl⟩ := List.getElem?_zipWith_eq_some.mp hi
  rfl

theorem started_of_connectVisiting {chains : List Chain} {outcome : Except SetupError Unit}
    (h : Holds chains s.registry) (hv : ∀ r, (visit r).Perm r.order)
    (hr : Runs (s.connectVisiting visit) t (outcome, s')) : Started s t outcome s' := by
  unfold connectVisiting at hr
  rw [runs_bind] at hr
  obtain ⟨t₁, t₂, ⟨result, registry⟩, hc, hr, rfl⟩ := hr
  have relinked := relinked_connectEach hc
  have placed := relinked.placed h.placed
  rcases (opening_of_connectAll h hc).outcome with ⟨links, hl, rfl, rfl, ho⟩ |
    ⟨before, chain, after, links, e, hs, hl, rfl, rfl, ho⟩
  · obtain ⟨rfl, hr⟩ := runs_pure.mp hr
    cases hr
    rw [List.append_nil]
    refine .connected hl relinked ho ?_
    intro a ha
    have visited := placed.ordered_perm.mem_iff.mpr ha
    rw [ho] at visited
    exact ready_of_linked a visited
  · rw [runs_bind] at hr
    obtain ⟨closing, t₃, s'', hd, hr, rfl⟩ := hr
    obtain ⟨rfl, hr⟩ := runs_pure.mp hr
    cases hr
    obtain ⟨back, -, asked⟩ := ended_of_shutdownVisiting placed (hv registry) hd
    have undone : s' = s := by
      rw [back, h.released_of_relinked relinked]
    subst undone
    have held : (registry.adapters.filterMap Adapter.link).Perm links := by
      have ordered := links_ordered placed
      rw [ho, List.filterMap_append, links_linked hl, links_new, List.append_nil] at ordered
      exact ordered.symm
    rw [List.append_nil, List.append_assoc]
    exact .undone hs hl (asked.trans (held.map _)) h.unready

end Scheduler

namespace Setup

open Scheduler

variable {setup : Setup} {environment : Environment} {s : Scheduler}

theorem holds_of_build (h : setup.build environment = .ok s) :
    ∃ chains, (setup.settings.getD default).enabledChains environment = .ok chains ∧
      Registry.Holds (chains ++ setup.chains) s.registry := by
  unfold build at h
  obtain ⟨chains, hc, h⟩ := bind_eq_ok h
  obtain ⟨registry, hr, h⟩ := bind_eq_ok h
  obtain ⟨key, -, h⟩ := bind_eq_ok h
  obtain ⟨a, -, h⟩ := bind_eq_ok h
  cases h
  exact ⟨chains, mapError_eq_ok hc, Registry.holds_ofChains (mapError_eq_ok hr)⟩

/-- Starting goes back in ascending order, too. -/
theorem start_order (setup : Setup) (environment : Environment) :
    setup.startVisiting Registry.order environment = setup.start environment := rfl

theorem runs_startVisiting {visit : Registry → List Nat} {t : Transcript}
    {result : Except SetupError Scheduler} (h : setup.build environment = .ok s) :
    Runs (setup.startVisiting visit environment) t result ↔
      ∃ outcome s', Runs (s.connectVisiting visit) t (outcome, s') ∧
        result = outcome.map fun _ => s' := by
  unfold startVisiting
  rw [h]
  change Runs (s.connectVisiting visit >>= fun (p : Except SetupError Unit × Scheduler) =>
    pure (p.1.map fun _ => p.2)) t result ↔ _
  rw [runs_bind]
  refine ⟨?_, ?_⟩
  · rintro ⟨t₁, t₂, ⟨outcome, s'⟩, hr, hp, rfl⟩
    obtain ⟨rfl, rfl⟩ := runs_pure.mp hp
    rw [List.append_nil]
    exact ⟨outcome, s', hr, rfl⟩
  · rintro ⟨outcome, s', hr, rfl⟩
    exact ⟨t, [], (outcome, s'), hr, runs_pure.mpr ⟨rfl, rfl⟩, (List.append_nil t).symm⟩

/-- A scheduler that is built has its chains attempted in ascending order of their keys, and all of
them are connected or none. While they are, and after any later changes to the links, shutting down
ends each link once. In which order the adapters are disconnected does not matter. -/
theorem start_all_or_none {visit : Registry → List Nat} (h : setup.build environment = .ok s)
    (hv : ∀ r, (visit r).Perm r.order) :
    (∃ chains, (setup.settings.getD default).enabledChains environment = .ok chains ∧
        s.chains.Perm (chains ++ setup.chains)) ∧
      (s.chains.map Chain.key).Pairwise (· < ·) ∧
      (∀ t result, Runs (setup.startVisiting visit environment) t result ↔
        ∃ outcome s', Runs (s.connectVisiting visit) t (outcome, s') ∧
          result = outcome.map fun _ => s') ∧
      (∀ t outcome s', Runs (s.connectVisiting visit) t (outcome, s') → Started s t outcome s') ∧
      (∀ s', Registry.Relinked s.registry s'.registry →
        ∀ t s'', Runs (s'.shutdownVisiting visit) t s'' → Ended s' t s'') ∧
      setup.startVisiting Registry.order environment = setup.start environment ∧
      ∀ s' : Scheduler, s'.shutdownVisiting Registry.order = s'.shutdown := by
  obtain ⟨chains, hc, holds⟩ := holds_of_build h
  refine ⟨⟨chains, hc, ?_⟩, ?_, ?_, ?_, ?_, start_order setup environment, shutdownVisiting_order⟩
  · have all := holds.placed.ordered_perm.map Adapter.chain
    rw [holds.placed.adapters] at all
    exact all
  · unfold Scheduler.chains
    rw [holds.placed.keys_ordered]
    exact s.registry.positions.keys_ascending
  · intro t result
    exact runs_startVisiting h
  · intro t outcome s' hr
    exact started_of_connectVisiting holds hv hr
  · intro s' same t s'' hr
    exact ended_of_shutdownVisiting (same.placed holds.placed) (hv s'.registry) hr

/-- Two chains from settings, disconnected in descending order. -/
theorem start_all_or_none_turing :
    ∃ s, (ofSettings Sample.settings).build Sample.surroundings = .ok s ∧
      s.chains.length = 2 ∧
      ∀ t outcome s',
        Runs (s.connectVisiting fun r => r.order.reverse) t (outcome, s') →
          Started s t outcome s' := by
  have agree := accord Sample.settings Sample.surroundings
  rw [Sample.validated] at agree
  generalize hb : (ofSettings Sample.settings).build Sample.surroundings = built at agree
  cases agree with
  | @built s follows =>
    obtain ⟨⟨chains, hc, all⟩, -, -, started, -⟩ :=
      start_all_or_none hb fun r => List.reverse_perm r.order
    refine ⟨s, rfl, ?_, started⟩
    have count : Sample.settings.enabled.length = 2 := by rfl
    change s.chains.Perm (chains ++ []) at all
    rw [List.append_nil] at all
    have keys := congrArg List.length (Settings.keys_of_enabledChains hc)
    rw [List.length_map, List.length_map, ← all.length_eq] at keys
    exact keys.trans count

end Setup

end XcmTasks

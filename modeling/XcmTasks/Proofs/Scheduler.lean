import XcmTasks.Proofs.Registry
import XcmTasks.Proofs.Results
import XcmTasks.Scheduler

/-!
The schedulers that one can come to: they are built, and then chains are connected and disconnected,
all together or one by one. Their origin is there all the time.
-/

namespace XcmTasks

open Dialogue hiding bind_assoc
open Registry

/-- The scheduler has been built, and only connected and disconnected since. -/
inductive Scheduler.Reachable : Scheduler → Prop where
  | built {setup : Setup} {environment : Environment} {s : Scheduler}
      (h : setup.build environment = .ok s) : Reachable s
  | connected {s s' : Scheduler} {t : Transcript} {result : Except SetupError Unit}
      (h : Reachable s) (hr : Runs s.connect t (result, s')) : Reachable s'
  | shutDown {s s' : Scheduler} {t : Transcript} (h : Reachable s)
      (hr : Runs s.shutdown t s') : Reachable s'
  | connectedOne {s : Scheduler} {key : String} {t : Transcript} {result : Except AdapterError Unit}
      {registry : Registry} (h : Reachable s)
      (hr : Runs (s.registry.updateKey key Adapter.connect) t (result, registry)) :
      Reachable { s with registry := registry }
  | disconnectedOne {s : Scheduler} {key : String} {t : Transcript}
      {result : Except AdapterError Unit} {registry : Registry} (h : Reachable s)
      (hr : Runs (s.registry.updateKey key Adapter.disconnect) t (result, registry)) :
      Reachable { s with registry := registry }

namespace Scheduler

variable {s s' : Scheduler} {t : Transcript}

theorem relinked_shutdown (hr : Runs s.shutdown t s') :
    Relinked s.registry s'.registry ∧ s'.originKey = s.originKey := by
  unfold shutdown at hr
  rw [runs_bind] at hr
  obtain ⟨_, _, registry, hd, hr, _⟩ := hr
  obtain ⟨-, rfl⟩ := runs_pure.mp hr
  exact ⟨relinked_disconnectEach hd, rfl⟩

theorem relinked_connect {result : Except SetupError Unit}
    (hr : Runs s.connect t (result, s')) :
    Relinked s.registry s'.registry ∧ s'.originKey = s.originKey := by
  unfold connect at hr
  rw [runs_bind] at hr
  obtain ⟨_, _, ⟨e | _, registry⟩, hc, hr, _⟩ := hr
  · rw [runs_bind] at hr
    obtain ⟨_, _, s'', hs, hr, _⟩ := hr
    obtain ⟨-, hr⟩ := runs_pure.mp hr
    cases hr
    obtain ⟨hl, hk⟩ := relinked_shutdown hs
    exact ⟨(relinked_connectEach hc).trans hl, hk⟩
  · obtain ⟨-, hr⟩ := runs_pure.mp hr
    cases hr
    exact ⟨relinked_connectEach hc, rfl⟩

theorem origin_of_relinked (h : ∃ a, s.origin = .ok a) (hl : Relinked s.registry s'.registry)
    (hk : s'.originKey = s.originKey) : ∃ a, s'.origin = .ok a := by
  obtain ⟨a, ho⟩ := h
  obtain ⟨a', ho', -⟩ := hl.origin ho
  exact ⟨a', by rw [origin, hk, ho']⟩

theorem origin_of_build {setup : Setup} {environment : Environment}
    (h : setup.build environment = .ok s) : ∃ a, s.origin = .ok a := by
  unfold Setup.build at h
  obtain ⟨chains, -, h⟩ := bind_eq_ok h
  obtain ⟨registry, -, h⟩ := bind_eq_ok h
  obtain ⟨key, -, h⟩ := bind_eq_ok h
  obtain ⟨a, ho, h⟩ := bind_eq_ok h
  cases h
  exact ⟨a, mapError_eq_ok ho⟩

theorem Reachable.origin (h : Reachable s) : ∃ a, s.origin = .ok a := by
  induction h with
  | built h => exact origin_of_build h
  | connected _ hr ih =>
    obtain ⟨hl, hk⟩ := relinked_connect hr
    exact origin_of_relinked ih hl hk
  | shutDown _ hr ih =>
    obtain ⟨hl, hk⟩ := relinked_shutdown hr
    exact origin_of_relinked ih hl hk
  | connectedOne _ hr ih =>
    exact origin_of_relinked ih (relinked_updateKey Adapter.keepsChain_connect hr) rfl
  | disconnectedOne _ hr ih =>
    exact origin_of_relinked ih (relinked_updateKey Adapter.keepsChain_disconnect hr) rfl

end Scheduler

end XcmTasks

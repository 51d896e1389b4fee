import XcmTasks.Proofs.Linking
import XcmTasks.Proofs.Scheduling.Stages
import XcmTasks.Proofs.Startup

/-!
The capability to register tasks. The derivative flow is refused on the chains that have no call for
it, before anything else may fail and whatever the state of both adapters. A scheduler picks the
flow by the same capability, so it is never refused that way.
-/

namespace XcmTasks

open Dialogue hiding bind_assoc
open Adapter

/-- Chains of the family have a call that registers a task on another chain. -/
def ChainFamily.Registers (family : ChainFamily) : Prop := family = .moonbeam ∨ family = .astar

theorem ChainFamily.registrar?_isSome (family : ChainFamily) :
    family.registrar?.isSome = true ↔ family.Registers := by
  cases family <;> simp [Registers, registrar?]

theorem ChainFamily.registrar?_eq_none (family : ChainFamily) :
    family.registrar? = none ↔ ¬family.Registers := by
  rw [← registrar?_isSome, Option.not_isSome_iff_eq_none]

theorem SchedulingError.atStage_staged (stage : SchedulingStage) (cause : AdapterError) :
    ∃ reached, SchedulingError.atStage stage cause = .failed reached cause := by
  cases cause with
  | rejected => exact ⟨.rejected, rfl⟩
  | _ => exact ⟨stage, rfl⟩

namespace Scheduling

section
variable {origin destination : Adapter} {request : TaskRequest} {signer : Signer}
variable {flow : Flow} {t : Transcript}

theorem Quoting.staged {a : Adapter} {call : Call} {sender : AccountId} {asset : Location}
    {e : SchedulingError} (h : Quoting a call sender asset flow t (.error e)) :
    ∃ stage cause, e = .failed stage cause := by
  cases h with
  | unweighed => exact ⟨_, _, rfl⟩
  | unpriced => exact ⟨_, _, rfl⟩

/-- Nothing but the lack of the capability is told as such. -/
theorem Course.incapable_of_missing {chain : String} {r : Except SchedulingError ScheduledTask}
    (h : Course origin destination request signer flow t r)
    (hr : r = .error (.capabilityMissing chain)) :
    flow = .derivative ∧ ¬destination.chain.family.Registers := by
  cases h with
  | incapable hn => exact ⟨rfl, destination.chain.family.registrar?_eq_none.mp hn⟩
  | homelessDestination => cases hr
  | homelessOrigin => cases hr
  | unquoted _ _ _ hq =>
    cases hr
    obtain ⟨stage, cause, staged⟩ := hq.staged
    cases staged
  | unquotedOrigin _ _ _ _ hq =>
    cases hr
    obtain ⟨stage, cause, staged⟩ := hq.staged
    cases staged
  | @submitting _ _ _ _ _ result _ _ =>
    cases result with
    | ok receipt => cases hr
    | error e =>
      obtain ⟨reached, staged⟩ := SchedulingError.atStage_staged .submitted e
      change Except.error (SchedulingError.atStage .submitted e) = _ at hr
      rw [staged] at hr
      cases hr

/-- A task is reported with the flow that it was scheduled in. -/
theorem Course.flow_of_ok {task : ScheduledTask} {r : Except SchedulingError ScheduledTask}
    (h : Course origin destination request signer flow t r) (hr : r = .ok task) :
    task.flow = flow := by
  cases h with
  | incapable => cases hr
  | homelessDestination => cases hr
  | homelessOrigin => cases hr
  | unquoted => cases hr
  | unquotedOrigin => cases hr
  | @submitting _ _ _ _ _ result hp _ =>
    cases result with
    | error e => cases hr
    | ok receipt =>
      cases hr
      cases hp <;> rfl

theorem runs_derivative_of_incapable {r : Except SchedulingError ScheduledTask}
    (hn : ¬destination.chain.family.Registers) :
    Runs (through .derivative origin destination request signer).run t r ↔
      t = [] ∧ r = .error (.capabilityMissing destination.key) := by
  rw [through_of_incapable (destination.chain.family.registrar?_eq_none.mpr hn), runs_throw]

theorem recommendedFlow_eq_derivative :
    recommendedFlow destination = .derivative ↔ destination.chain.family.Registers := by
  unfold recommendedFlow
  rw [← ChainFamily.registrar?_isSome]
  split <;> simp_all

/-- The flow that is recommended is one that the destination is capable of. -/
theorem Course.not_missing_of_recommended {chain : String}
    (h : Course origin destination request signer (recommendedFlow destination) t
      (.error (.capabilityMissing chain))) : False := by
  obtain ⟨derivative, incapable⟩ := h.incapable_of_missing rfl
  exact incapable (recommendedFlow_eq_derivative.mp derivative)

end

end Scheduling

namespace Scheduler

open Scheduling

section
variable {s : Scheduler} {key : String} {request : TaskRequest} {signer : Signer}
variable {t : Transcript}

theorem schedule_not_missing (hs : s.Reachable) {chain : String} :
    ¬Runs (s.schedule key request signer).run t (.error (.capabilityMissing chain)) := by
  intro h
  obtain ⟨origin, ho⟩ := hs.origin
  cases hg : s.registry.get key with
  | error e =>
    rw [schedule_of_unknown hg, runs_throw] at h
    cases h.2
  | ok destination =>
    rw [schedule_of_known hg ho, runs_through] at h
    exact h.not_missing_of_recommended

theorem schedule_flow (hs : s.Reachable) {task : ScheduledTask}
    (h : Runs (s.schedule key request signer).run t (.ok task)) :
    ∃ destination, s.registry.get key = .ok destination ∧
      (task.flow = .derivative ↔ destination.chain.family.Registers) := by
  obtain ⟨origin, ho⟩ := hs.origin
  cases hg : s.registry.get key with
  | error e =>
    rw [schedule_of_unknown hg, runs_throw] at h
    cases h.2
  | ok destination =>
    rw [schedule_of_known hg ho, runs_through] at h
    exact ⟨destination, rfl, by rw [h.flow_of_ok rfl, recommendedFlow_eq_derivative]⟩

end

end Scheduler

namespace Scheduling

/-- A chain that cannot register tasks is told to be incapable of the derivative flow, without any
question, and no other chain ever is. A scheduler never comes to that, since it takes the derivative
flow exactly where the chain can register tasks. -/
theorem capability_decides (request : TaskRequest) (signer : Signer) :
    (∀ origin destination : Adapter,
      (¬destination.chain.family.Registers → ∀ t r,
        Runs (through .derivative origin destination request signer).run t r ↔
          t = [] ∧ r = .error (.capabilityMissing destination.key)) ∧
      (destination.chain.family.Registers → ∀ t chain,
        ¬Runs (through .derivative origin destination request signer).run t
          (.error (.capabilityMissing chain)))) ∧
    ∀ (s : Scheduler) (key : String), s.Reachable →
      (∀ t chain, ¬Runs (s.schedule key request signer).run t
        (.error (.capabilityMissing chain))) ∧
      ∀ t task, Runs (s.schedule key request signer).run t (.ok task) →
        ∃ destination, s.registry.get key = .ok destination ∧
          (task.flow = .derivative ↔ destination.chain.family.Registers) := by
  refine ⟨fun origin destination => ⟨fun hn t r => runs_derivative_of_incapable hn, ?_⟩,
    fun s key hs => ⟨fun t chain => Scheduler.schedule_not_missing hs,
      fun t task h => Scheduler.schedule_flow hs h⟩⟩
  intro capable t chain h
  exact ((runs_through.mp h).incapable_of_missing rfl).2 capable

namespace Sample

open Registry

theorem connecting (chain : Chain) :
    Runs (Adapter.new chain).connect [⟨.connect chain, .ok link⟩] (.ok (), adapter chain) :=
  runs_connect.mpr (.connected rfl)

theorem connecting_key {r : Registry} {key : String} {i : Nat} (chain : Chain)
    (hp : r.positions.get? key = some i) (ha : r.adapters[i]? = some (.new chain)) :
    Runs (r.updateKey key Adapter.connect) [⟨.connect chain, .ok link⟩]
      (.ok (), r.put i (adapter chain)) := by
  unfold updateKey
  simp only [hp]
  exact (runs_update ha).mpr ⟨_, connecting chain, rfl⟩

theorem scheduler_linked :
    ∃ s : Scheduler, s.Reachable ∧ s.registry.get "shibuya" = .ok (adapter .shibuya) ∧
      s.origin = .ok (adapter .turing) := by
  have builds : (Setup.build ⟨none, [.turing, .shibuya], some "turing-local"⟩ []).toOption.any
      (fun s => s.originKey == "turing-local") = true := by
    decide +kernel
  obtain ⟨s, found, named⟩ := (Option.any_eq_true _ _).mp builds
  have built := eq_ok_of_toOption found
  obtain ⟨chains, enabled, holds⟩ := Setup.holds_of_build built
  cases enabled
  have first : s.registry.positions.get? "turing-local" = some 0 :=
    (holds.positions _ 0).mpr ⟨.turing, rfl, rfl, trivial⟩
  have second : s.registry.positions.get? "shibuya" = some 1 :=
    (holds.positions _ 1).mpr ⟨.shibuya, rfl, rfl, trivial⟩
  have root : s.registry.origins.get? "turing-local" = some 0 :=
    (holds.origins _ 0).mpr ⟨.turing, rfl, rfl, rfl⟩
  have adapters : s.registry.adapters = [.new .turing, .new .shibuya] := holds.adapters
  have one := connecting_key .turing first (by rw [adapters]; rfl)
  have two := connecting_key (r := s.registry.put 0 (adapter .turing)) .shibuya second
    (by rw [put, adapters]; rfl)
  refine ⟨_, (Scheduler.Reachable.connectedOne (.connectedOne (.built built) one) two), ?_, ?_⟩
  · simp [Registry.get, Registry.find?, put, second, adapters]
  · simp [Scheduler.origin, Registry.origin, Registry.find?, put, eq_of_beq named, root, adapters]

end Sample

/-- A chain that was never connected is refused for what it is, and a scheduler with both chains
connected takes the derivative flow to one that can register tasks. -/
theorem capability_decides_shibuya :
    Runs (through .derivative (.new .turing) (.new .mangata) (Sample.request .turing .mangata)
        Sample.signer).run [] (.error (.capabilityMissing "mangata-local")) ∧
      (∃ t r, Runs (through .derivative (Sample.adapter .turing) (Sample.adapter .shibuya)
          (Sample.request .turing .shibuya) Sample.signer).run t r ∧
        ∀ chain, r ≠ .error (.capabilityMissing chain)) ∧
      ∃ s : Scheduler, s.Reachable ∧ ∃ t task,
        Runs (s.schedule "shibuya" (Sample.request .turing .shibuya) Sample.signer).run t
          (.ok task) ∧ task.flow = .derivative := by
  have incapable : ¬Chain.mangata.family.Registers := by simp [Chain.mangata, Chain.localChain,
    ChainFamily.Registers]
  have capable : Chain.shibuya.family.Registers := .inr rfl
  obtain ⟨t, task, course, -⟩ := Sample.derivative_scheduled
  have run := runs_of_course course
  refine ⟨?_, ⟨t, _, run, ?_⟩, ?_⟩
  · exact (((capability_decides _ _).1 _ _).1 incapable _ _).mpr ⟨rfl, rfl⟩
  · rintro chain missing
    exact ((capability_decides _ _).1 _ _).2 capable t chain (missing ▸ run)
  · obtain ⟨s, reached, hg, ho⟩ := Sample.scheduler_linked
    have scheduled : Runs (s.schedule "shibuya" (Sample.request .turing .shibuya)
        Sample.signer).run t (.ok task) := by
      rw [Scheduler.schedule_of_known hg ho]
      exact run
    obtain ⟨destination, found, flow⟩ :=
      ((capability_decides _ _).2 s _ reached).2 t task scheduled
    cases hg.symm.trans found
    exact ⟨s, reached, t, task, scheduled, flow.mpr capable⟩

end Scheduling

end XcmTasks

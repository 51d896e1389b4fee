import XcmTasks.Proofs.Scheduler
import XcmTasks.Proofs.Scheduling.Order

/-!
The stage of an error. A run that fails stops at one of five stages, and the stage in its error is
the one that it stopped at. Building the extrinsic never fails, since the origin is a sibling of the
destination wherever the numbers of both are there.
-/

namespace XcmTasks

open Dialogue hiding bind_assoc
open Adapter

namespace Scheduling

/-- The stage that a failed scheduling tells. -/
def failedStage? : Except SchedulingError ScheduledTask → Option SchedulingStage
  | .ok _ => none
  | .error e => e.stage?

section
variable {origin destination : Adapter} {request : TaskRequest} {signer : Signer}
variable {t : Transcript} {r : Except SchedulingError ScheduledTask}

/-- Where a run that asked this stops, if it does. -/
inductive StopsAt (origin destination : Adapter) (request : TaskRequest) (signer : Signer) :
    Flow → Transcript → SchedulingStage → Prop where
  /-- A chain has no number, and nothing is asked. -/
  | homeless {flow : Flow} (hc : Capable flow destination)
      (hn : destination.chain.paraId = none ∨ origin.chain.paraId = none) :
      StopsAt origin destination request signer flow [] .buildingPayload
  | unweighed {flow : Flow} {d o : UInt32} {t : Transcript} {e : AdapterError}
      (hc : Capable flow destination)
      (hd : destination.chain.paraId = some d) (ho : origin.chain.paraId = some o)
      (hw : Weighing destination request.payload (payloadSender flow o destination signer)
        flow.instructionCount t (.error e)) :
      StopsAt origin destination request signer flow t .weightsComputed
  | unweighedOrigin {d o : UInt32} {t₁ t₂ : Transcript} {weight : XcmWeight} {fee : UInt128}
      {e : AdapterError} (hc : Capable .derivative destination)
      (hd : destination.chain.paraId = some d) (ho : origin.chain.paraId = some o)
      (hq : Quoting destination request.payload (payloadSender .derivative o destination signer)
        request.executionFeeLocation .derivative t₁ (.ok (weight, fee)))
      (hw : Weighing origin ((order request (.siblingParachain d) weight fee).proxyCall
          (origin.derivativeAccount signer.account d))
        (origin.derivativeAccount signer.account d) Flow.derivative.instructionCount t₂
        (.error e)) :
      StopsAt origin destination request signer .derivative (t₁ ++ t₂) .weightsComputed
  | unpriced {flow : Flow} {d o : UInt32} {t₁ t₂ : Transcript} {weight : XcmWeight}
      {e : AdapterError} (hc : Capable flow destination)
      (hd : destination.chain.paraId = some d) (ho : origin.chain.paraId = some o)
      (hw : Weighing destination request.payload (payloadSender flow o destination signer)
        flow.instructionCount t₁ (.ok weight))
      (hp : Pricing destination weight.overallWeight request.executionFeeLocation t₂ (.error e)) :
      StopsAt origin destination request signer flow (t₁ ++ t₂) .feesComputed
  | unpricedOrigin {d o : UInt32} {t₁ t₂ t₃ : Transcript} {weight originWeight : XcmWeight}
      {fee : UInt128} {e : AdapterError} (hc : Capable .derivative destination)
      (hd : destination.chain.paraId = some d) (ho : origin.chain.paraId = some o)
      (hq : Quoting destination request.payload (payloadSender .derivative o destination signer)
        request.executionFeeLocation .derivative t₁ (.ok (weight, fee)))
      (hw : Weighing origin ((order request (.siblingParachain d) weight fee).proxyCall
          (origin.derivativeAccount signer.account d))
        (origin.derivativeAccount signer.account d) Flow.derivative.instructionCount t₂
        (.ok originWeight))
      (hp : Pricing origin originWeight.overallWeight request.scheduleFeeLocation t₃ (.error e)) :
      StopsAt origin destination request signer .derivative (t₁ ++ (t₂ ++ t₃)) .feesComputed
  | unsubmitted {flow : Flow} {t₁ t₂ : Transcript} {call : Call}
      {report : Receipt → ScheduledTask} {e : AdapterError}
      (hp : Prepared origin destination request signer flow t₁ call report)
      (hs : Submitting (submitter flow origin destination) call signer t₂ (.error e))
      (hr : receipts t₂ = []) :
      StopsAt origin destination request signer flow (t₁ ++ t₂) .submitted
  | refused {flow : Flow} {t : Transcript} {receipt : Receipt} (hr : receipts t = [receipt])
      (he : (receipt.findEvent? "system" "ExtrinsicFailed").isSome = true) :
      StopsAt origin destination request signer flow t .rejected

theorem dispatchError?_isSome (receipt : Receipt) :
    receipt.dispatchError?.isSome = (receipt.findEvent? "system" "ExtrinsicFailed").isSome := by
  unfold Receipt.dispatchError?
  cases receipt.findEvent? "system" "ExtrinsicFailed" <;> rfl

theorem failedStage?_unsubmitted {report : Receipt → ScheduledTask} {e : AdapterError}
    (h : e.Unrefused) : failedStage? (conclude report (.error e)) = some .submitted := by
  change (SchedulingError.atStage .submitted e).stage? = _
  rw [SchedulingError.atStage_of_unrefused h]
  rfl

theorem Course.stopsAt {flow : Flow} {stage : SchedulingStage}
    (h : Course origin destination request signer flow t r) (hs : failedStage? r = some stage) :
    StopsAt origin destination request signer flow t stage := by
  cases h with
  | incapable => cases hs
  | homelessDestination hc hd =>
    cases hs
    exact .homeless hc (.inl hd)
  | homelessOrigin hc _ ho =>
    cases hs
    exact .homeless hc (.inr ho)
  | unquoted hc hd ho hq =>
    cases hq with
    | unweighed hw =>
      cases hs
      exact .unweighed hc hd ho hw
    | unpriced hw hp =>
      cases hs
      exact .unpriced hc hd ho hw hp
  | unquotedOrigin hc hd ho hq hq' =>
    cases hq' with
    | unweighed hw =>
      cases hs
      exact .unweighedOrigin hc hd ho hq hw
    | unpriced hw hp =>
      cases hs
      exact .unpricedOrigin hc hd ho hq hw hp
  | @submitting _ t₁ t₂ call report result hp hsub =>
    cases result with
    | ok receipt => cases hs
    | error e =>
      cases hrec : receipts t₂ with
      | nil =>
        rw [failedStage?_unsubmitted (hsub.unrefused hrec)] at hs
        cases hs
        exact .unsubmitted hp hsub hrec
      | cons receipt others =>
        cases hsub with
        | unlinked => cases hrec
        | unencodable => cases hrec
        | unanswered => cases hrec
        | refused hl hc hd =>
          cases hs
          cases hrec
          have told : (receipt.findEvent? "system" "ExtrinsicFailed").isSome = true := by
            rw [← dispatchError?_isSome, hd]
            rfl
          refine .refused ?_ told
          rw [receipts_append, hp.quiet.2]
          rfl

theorem StopsAt.failed {flow : Flow} {stage : SchedulingStage}
    (h : StopsAt origin destination request signer flow t stage)
    (hc : Course origin destination request signer flow t r) : failedStage? r = some stage := by
  have told {r'} (h' : Course origin destination request signer flow t r') : r = r' :=
    (runs_of_course hc).unique (runs_of_course h')
  cases h with
  | homeless hcap hn =>
    cases hd : destination.chain.paraId with
    | none =>
      rw [told (.homelessDestination hcap hd)]
      rfl
    | some d =>
      rcases hn with hn | ho
      · cases hd.symm.trans hn
      · rw [told (.homelessOrigin hcap hd ho)]
        rfl
  | unweighed hcap hd ho hw =>
    rw [told (.unquoted hcap hd ho (.unweighed hw))]
    rfl
  | unweighedOrigin hcap hd ho hq hw =>
    rw [told (.unquotedOrigin hcap hd ho hq (.unweighed hw))]
    rfl
  | unpriced hcap hd ho hw hp =>
    rw [told (.unquoted hcap hd ho (.unpriced hw hp))]
    rfl
  | unpricedOrigin hcap hd ho hq hw hp =>
    rw [told (.unquotedOrigin hcap hd ho hq (.unpriced hw hp))]
    rfl
  | unsubmitted hp hs hr =>
    rw [told (.submitting hp hs)]
    exact failedStage?_unsubmitted (hs.unrefused hr)
  | @refused _ _ receipt hr he =>
    cases hc with
    | incapable => cases hr
    | homelessDestination => cases hr
    | homelessOrigin => cases hr
    | unquoted _ _ _ hq =>
      rw [hq.quiet.2] at hr
      cases hr
    | unquotedOrigin _ _ _ hq hq' =>
      rw [receipts_append, hq.quiet.2, hq'.quiet.2] at hr
      cases hr
    | submitting hp hs =>
      rw [receipts_append, hp.quiet.2, List.nil_append] at hr
      cases hs with
      | unlinked => cases hr
      | unencodable => cases hr
      | unanswered => cases hr
      | refused => rfl
      | accepted _ _ hd =>
        cases hr
        rw [← dispatchError?_isSome, hd] at he
        cases he

/-- The stage of an error tells exactly at which of the stops a run has stopped. -/
structure Told (stops : SchedulingStage → Prop) (t : Transcript)
    (r : Except SchedulingError ScheduledTask) : Prop where
  exactly : ∀ stage, failedStage? r = some stage ↔ stops stage
  staged : ∀ e, r = .error e →
    (∃ chain, e = .capabilityMissing chain) ∨ ∃ stage cause, e = .failed stage cause
  unasked : failedStage? r = some .buildingPayload → t = []
  built : failedStage? r ≠ some .extrinsicBuilt
  finalized : failedStage? r ≠ some .finalized

theorem told_of_exactly {stops : SchedulingStage → Prop}
    (h : ∀ stage, failedStage? r = some stage ↔ stops stage)
    (hb : stops .buildingPayload → t = []) (hx : ¬stops .extrinsicBuilt)
    (hf : ¬stops .finalized) : Told stops t r where
  exactly := h
  staged e _ := by
    cases e with
    | capabilityMissing chain => exact .inl ⟨chain, rfl⟩
    | failed stage cause => exact .inr ⟨stage, cause, rfl⟩
  unasked hs := hb ((h _).mp hs)
  built hs := hx ((h _).mp hs)
  finalized hs := hf ((h _).mp hs)

theorem StopsAt.unasked {flow : Flow}
    (h : StopsAt origin destination request signer flow t .buildingPayload) : t = [] := by
  cases h
  rfl

theorem StopsAt.not_extrinsicBuilt {flow : Flow} :
    ¬StopsAt origin destination request signer flow t .extrinsicBuilt := by
  intro h
  cases h

theorem StopsAt.not_finalized {flow : Flow} :
    ¬StopsAt origin destination request signer flow t .finalized := by
  intro h
  cases h

theorem told_of_runs {flow : Flow}
    (h : Runs (through flow origin destination request signer).run t r) :
    Told (StopsAt origin destination request signer flow t) t r := by
  have course := runs_through.mp h
  exact told_of_exactly (fun stage => ⟨course.stopsAt, fun hs => hs.failed course⟩)
    StopsAt.unasked StopsAt.not_extrinsicBuilt StopsAt.not_finalized

end

end Scheduling

namespace Scheduler

open Scheduling

section
variable {s : Scheduler} {key : String} {request : TaskRequest} {signer : Signer}
variable {t : Transcript} {r : Except SchedulingError ScheduledTask}

/-- Where a run of the scheduler that asked this stops, if it does. -/
inductive StopsAt (s : Scheduler) (key : String) (request : TaskRequest) (signer : Signer) :
    Transcript → SchedulingStage → Prop where
  | unknown {e : AdapterError} (hg : s.registry.get key = .error e) :
      StopsAt s key request signer [] .buildingPayload
  | known {origin destination : Adapter} {t : Transcript} {stage : SchedulingStage}
      (hg : s.registry.get key = .ok destination) (ho : s.origin = .ok origin)
      (hs : Scheduling.StopsAt origin destination request signer (recommendedFlow destination) t
        stage) :
      StopsAt s key request signer t stage

theorem atStage_unknownKey {e : AdapterError} (hg : s.registry.get key = .error e)
    (stage : SchedulingStage) : SchedulingError.atStage stage e = .failed stage e := by
  unfold Registry.get at hg
  split at hg
  · cases hg
  · cases hg
    rfl

theorem schedule_of_unknown {e : AdapterError} (hg : s.registry.get key = .error e) :
    s.schedule key request signer = throw (.failed .buildingPayload e) := by
  unfold schedule
  rw [hg, require_error, throw_bind, atStage_unknownKey hg]

theorem schedule_of_known {origin destination : Adapter}
    (hg : s.registry.get key = .ok destination) (ho : s.origin = .ok origin) :
    s.schedule key request signer =
      through (recommendedFlow destination) origin destination request signer := by
  unfold schedule
  rw [hg, ho, require_ok, require_ok, pure_bind, pure_bind]

theorem StopsAt.unasked (h : s.StopsAt key request signer t .buildingPayload) : t = [] := by
  cases h with
  | unknown => rfl
  | known _ _ hs => exact hs.unasked

theorem failedStage?_schedule (hs : s.Reachable)
    (h : Runs (s.schedule key request signer).run t r) (stage : SchedulingStage) :
    failedStage? r = some stage ↔ s.StopsAt key request signer t stage := by
  obtain ⟨origin, ho⟩ := hs.origin
  cases hg : s.registry.get key with
  | error e =>
    rw [schedule_of_unknown hg, runs_throw] at h
    obtain ⟨rfl, rfl⟩ := h
    refine ⟨?_, ?_⟩
    · intro hf
      cases hf
      exact .unknown hg
    · intro hstop
      cases hstop with
      | unknown => rfl
      | known hg' => cases hg.symm.trans hg'
  | ok destination =>
    rw [schedule_of_known hg ho] at h
    have told := told_of_runs h
    refine ⟨?_, ?_⟩
    · intro hf
      exact .known hg ho ((told.exactly stage).mp hf)
    · intro hstop
      cases hstop with
      | unknown hg' => cases hg.symm.trans hg'
      | known hg' ho' hstop =>
        cases hg.symm.trans hg'
        cases ho.symm.trans ho'
        exact (told.exactly stage).mpr hstop

theorem told_of_schedule (hs : s.Reachable)
    (h : Runs (s.schedule key request signer).run t r) :
    Told (s.StopsAt key request signer t) t r := by
  refine told_of_exactly (failedStage?_schedule hs h) StopsAt.unasked ?_ ?_
  · intro hstop
    cases hstop with
    | known _ _ hstop => exact hstop.not_extrinsicBuilt
  · intro hstop
    cases hstop with
    | known _ _ hstop => exact hstop.not_finalized

end

end Scheduler

namespace Scheduling

namespace Sample

theorem scheduler_reachable : ∃ s : Scheduler, s.Reachable := by
  have builds :
      (Setup.build ⟨none, [.turing, .mangata], some "turing-local"⟩ []).toBool = true := by
    decide +kernel
  cases hb : Setup.build ⟨none, [.turing, .mangata], some "turing-local"⟩ [] with
  | error e =>
    rw [hb] at builds
    cases builds
  | ok s => exact ⟨s, .built hb⟩

def unanswered (action : Action) (s : Unit) : action.Answer × Unit :=
  match action with
  | .connect _ => (.error .connectionClosed, s)
  | .send _ _ => (.error .connectionClosed, s)

end Sample

/-- The stage of an error tells where the run has stopped, whether the origin and the destination
are given or found by a scheduler. -/
theorem stage_tells {request : TaskRequest} {signer : Signer} {t : Transcript}
    {r : Except SchedulingError ScheduledTask} :
    (∀ {origin destination : Adapter} {flow : Flow},
      Runs (through flow origin destination request signer).run t r →
      Told (StopsAt origin destination request signer flow t) t r) ∧
    ∀ {s : Scheduler} {key : String}, s.Reachable →
      Runs (s.schedule key request signer).run t r →
      Told (s.StopsAt key request signer t) t r :=
  ⟨told_of_runs, Scheduler.told_of_schedule⟩

theorem stage_tells_mangata :
    (∃ t r, Runs (through .sovereign (Sample.adapter .turing) (Sample.adapter .mangata)
        (Sample.request .turing .mangata) Sample.signer).run t r ∧
      Told (StopsAt (Sample.adapter .turing) (Sample.adapter .mangata)
        (Sample.request .turing .mangata) Sample.signer .sovereign t) t r) ∧
    ∃ (s : Scheduler) (t : Transcript) (r : Except SchedulingError ScheduledTask), s.Reachable ∧
      Runs (s.schedule "mangata-local" (Sample.request .turing .mangata) Sample.signer).run t r ∧
      Told (s.StopsAt "mangata-local" (Sample.request .turing .mangata) Sample.signer t) t r := by
  refine ⟨?_, ?_⟩
  · obtain ⟨t, r, h, -⟩ := Sample.sovereign_course
    have run := runs_of_course h
    exact ⟨t, r, run, stage_tells.1 run⟩
  · obtain ⟨s, hs⟩ := Sample.scheduler_reachable
    have run := runs_exchanges Sample.unanswered
      (s.schedule "mangata-local" (Sample.request .turing .mangata) Sample.signer).run ()
    exact ⟨s, _, _, hs, run, stage_tells.2 hs run⟩

end Scheduling

end XcmTasks

import XcmTasks.Proofs.Scheduling.Arguments
import XcmTasks.Proofs.Scheduling.Order
import XcmTasks.Proofs.Weight

/-!
What the call that a run submits says. Its arguments can be read back, and they are those of the
request with the figures that the run has obtained, each at its place. The lengths of lists take 32
bits on the wire, so this holds of schedules and calls that are not longer.
-/

namespace XcmTasks

open Dialogue hiding bind_assoc
open Adapter Canonical

/-! ### Quotes -/

/-- What a call weighs on a chain, as its dry run told, and what the chain takes for that. -/
structure Quoted (a : Adapter) (call : Call) (sender : AccountId) (asset : Location)
    (instructions : Nat) (t : Transcript) (weight : XcmWeight) (fee : UInt128) : Prop where
  asked : ∃ (link : Link) (info : PaymentInfo) (t' : Transcript),
    a.link = some link ∧ link.encodeCall call = .ok weight.encodedCall ∧
    t = ⟨.send link (.paymentInfo weight.encodedCall sender), .ok info⟩ :: t' ∧
    info.weight = weight.callWeight ∧
    Runs (a.weightToFee weight.overallWeight asset).run t' (.ok fee)
  refTime : weight.overallWeight.refTime.toNat =
    weight.callWeight.refTime.toNat + instructions * a.chain.instructionWeight.refTime.toNat
  proofSize : weight.overallWeight.proofSize.toNat =
    weight.callWeight.proofSize.toNat + instructions * a.chain.instructionWeight.proofSize.toNat

theorem Location.siblingParachain_inj {d d' : UInt32} :
    siblingParachain d = siblingParachain d' ↔ d = d' := by
  refine ⟨?_, ?_⟩
  · intro h
    have same := congrArg paraId? h
    exact Option.some.inj same
  · rintro rfl
    rfl

namespace Scheduling

theorem Quoting.figures {a : Adapter} {call : Call} {sender : AccountId} {asset : Location}
    {flow : Flow} {t : Transcript} {weight : XcmWeight} {fee : UInt128}
    (h : Quoting a call sender asset flow t (.ok (weight, fee))) :
    Quoted a call sender asset flow.instructionCount.toNat t weight fee := by
  cases h with
  | quoted hw hp =>
    cases hw with
    | weighed hl hc ho =>
      obtain ⟨refTime, proofSize⟩ := overallWeight?_exact ho
      exact ⟨⟨_, _, _, hl, hc, rfl, rfl, runs_weightToFee.mpr hp⟩, refTime, proofSize⟩

section
variable {origin destination : Adapter} {request : TaskRequest} {signer : Signer}
variable {t : Transcript} {r : Except SchedulingError ScheduledTask}

/-! ### Through the sovereign account -/

/-- The parachains `d` and `o` have these numbers, the destination has quoted the weight and the fee
to the origin's own account there, and a call with these arguments is what the origin was sent. -/
structure SovereignSubmission (origin destination : Adapter) (request : TaskRequest)
    (signer : Signer) (t : Transcript) (r : Except SchedulingError ScheduledTask) (d o : UInt32)
    (weight : XcmWeight) (fee : UInt128) (args : Bytes) : Prop where
  destinationId : destination.chain.paraId = some d
  originId : origin.chain.paraId = some o
  sent : ∃ t' link bytes reply,
    Quoted destination request.payload (.siblingSovereign o destination.chain.accountKind)
      request.executionFeeLocation 5 t' weight fee ∧
    origin.link = some link ∧
    link.encodeCall ⟨"AutomationTime", "schedule_xcmp_task", args⟩ = .ok bytes ∧
    t = t' ++ [⟨.send link (.submit bytes signer), reply⟩]
  arguments : Fits request.schedule → Fits weight.encodedCall →
    (decode : Decoder ScheduleArguments) args =
      some ((request.schedule, .v3 (.siblingParachain d), .v3 request.scheduleFeeLocation,
        ⟨.v3 request.executionFeeLocation, fee⟩, weight.encodedCall, weight.callWeight,
        weight.overallWeight, .sovereign), [])
  reported : ∀ task, r = .ok task → task.destinationWeight = weight ∧ task.executionFee = fee

theorem SovereignSubmission.inj {origin' destination' : Adapter} {request' : TaskRequest}
    {signer' : Signer} {t' : Transcript} {r' : Except SchedulingError ScheduledTask}
    {d o d' o' : UInt32} {weight weight' : XcmWeight} {fee fee' : UInt128} {args : Bytes}
    (h : SovereignSubmission origin destination request signer t r d o weight fee args)
    (h' : SovereignSubmission origin' destination' request' signer' t' r' d' o' weight' fee' args)
    (hs : Fits request.schedule) (hc : Fits weight.encodedCall)
    (hs' : Fits request'.schedule) (hc' : Fits weight'.encodedCall) :
    request.schedule = request'.schedule ∧ d = d' ∧
      request.scheduleFeeLocation = request'.scheduleFeeLocation ∧
      request.executionFeeLocation = request'.executionFeeLocation ∧ fee = fee' ∧
      weight = weight' := by
  have read := (h.arguments hs hc).symm.trans (h'.arguments hs' hc')
  obtain ⟨payload, callWeight, overallWeight⟩ := weight
  obtain ⟨payload', callWeight', overallWeight'⟩ := weight'
  simp only [Option.some.injEq, Prod.mk.injEq, VersionedLocation.v3.injEq, AssetPayment.mk.injEq,
    Location.siblingParachain_inj] at read
  obtain ⟨⟨hschedule, hplace, hfees, ⟨hasset, hfee⟩, rfl, rfl, rfl, -⟩, -⟩ := read
  exact ⟨hschedule, hplace, hfees, hasset, hfee, rfl⟩

end

end Scheduling

end XcmTasks

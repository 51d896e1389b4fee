import XcmTasks.Adapter.Automation
import XcmTasks.Adapter.Pricing
import XcmTasks.Adapter.Registration
import XcmTasks.Adapter.Transfer
import XcmTasks.Scheduling.Stage

/-!
Scheduling a task on an origin chain that runs on a destination chain. What the task weighs and
costs on the destination is found out first. Then either the signer schedules it on the origin,
and the origin's own account pays for the execution; or the signer sends the registration from the
destination, and the task is scheduled as, and paid by, the account that the signer acts through
on the origin. Nothing is asked twice, and the first failure ends it.
-/

namespace XcmTasks

/-- What is to run on the destination and when, and which assets pay for it. -/
structure TaskRequest where
  schedule : Schedule
  payload : Call
  scheduleFeeLocation : Location
  executionFeeLocation : Location
deriving DecidableEq, Repr

structure ScheduledTask where
  flow : Flow
  stage : SchedulingStage
  receipt : Receipt
  taskId : Option String
  destinationWeight : XcmWeight
  executionFee : UInt128
  /-- The account that the task runs as on the origin, if it is not the signer's. -/
  scheduleAs : Option AccountId
  /-- The registration with its weights and its fee, if it came from the destination. -/
  registration : Option TransactInfo
deriving Repr

abbrev Scheduling := ExceptT SchedulingError Talk

/-- An operation whose failure ends the scheduling at a stage. -/
def Operation.orFailAt {α : Type} (operation : Operation α) (stage : SchedulingStage) :
    Scheduling α :=
  operation.adapt (SchedulingError.atStage stage)

namespace Scheduling

def require {α : Type} (stage : SchedulingStage) : Except AdapterError α → Scheduling α
  | .ok a => pure a
  | .error e => throw (.atStage stage e)

/-- What the payload weighs on the destination, and what the destination takes for it. -/
def destinationFigures (destination : Adapter) (request : TaskRequest) (sender : AccountId)
    (flow : Flow) : Scheduling (XcmWeight × UInt128) := do
  let weight ← (destination.xcmWeight request.payload sender flow.instructionCount).orFailAt
    .weightsComputed
  let fee ← (destination.weightToFee weight.overallWeight request.executionFeeLocation).orFailAt
    .feesComputed
  return (weight, fee)

def order (request : TaskRequest) (destination : Location) (weight : XcmWeight) (fee : UInt128) :
    TaskOrder where
  schedule := request.schedule
  destination := destination
  scheduleFeeLocation := request.scheduleFeeLocation
  executionFeeLocation := request.executionFeeLocation
  executionFeeAmount := fee
  transact := weight

def scheduled (flow : Flow) (receipt : Receipt) (weight : XcmWeight) (fee : UInt128)
    (scheduleAs : Option AccountId) (registration : Option TransactInfo) : ScheduledTask where
  flow := flow
  stage := if receipt.isFinalized then .finalized else .submitted
  receipt := receipt
  taskId := receipt.taskId?
  destinationWeight := weight
  executionFee := fee
  scheduleAs := scheduleAs
  registration := registration

def originParaId (origin : Adapter) : Except AdapterError UInt32 :=
  match origin.chain.paraId with
  | some paraId => .ok paraId
  | none => .error (.configuration ("origin chain " ++ origin.key ++ " has no para id"))

/-- The signer schedules the task on the origin. -/
def throughSovereign (origin destination : Adapter) (request : TaskRequest) (signer : Signer) :
    Scheduling ScheduledTask := do
  let place ← require .buildingPayload destination.location
  let paraId ← require .buildingPayload (originParaId origin)
  let sovereign := AccountId.siblingSovereign paraId destination.chain.accountKind
  let (weight, fee) ← destinationFigures destination request sovereign .sovereign
  let call := (order request place weight fee).scheduleCall .sovereign
  let receipt ← (origin.submit call signer).orFailAt .submitted
  return scheduled .sovereign receipt weight fee none none

def destinationParaId (place : Location) : Except AdapterError UInt32 :=
  match place.paraId? with
  | some paraId => .ok paraId
  | none => .error (.configuration
      ("destination " ++ place.describe ++ " is not a sibling parachain"))

/-- The signer sends the registration from the destination. -/
def throughDerivative (origin destination : Adapter) (request : TaskRequest) (signer : Signer) :
    Scheduling ScheduledTask := do
  match destination.chain.family.registrar? with
  | none => throw (.capabilityMissing destination.key)
  | some registrar =>
    let place ← require .buildingPayload destination.location
    let paraId ← require .buildingPayload (destinationParaId place)
    let target ← require .buildingPayload origin.location
    let (weight, fee) ← destinationFigures destination request signer.account .derivative
    let derivative := origin.derivativeAccount signer.account paraId
    let proxyCall := (order request place weight fee).proxyCall derivative
    let originWeight ← (origin.xcmWeight proxyCall derivative
      Flow.derivative.instructionCount).orFailAt .weightsComputed
    let scheduleFee ← (origin.weightToFee originWeight.overallWeight
      request.scheduleFeeLocation).orFailAt .feesComputed
    let registration := originWeight.withFee scheduleFee
    let call ← require .extrinsicBuilt
      (registrar ⟨target, request.scheduleFeeLocation, registration, derivative⟩)
    let receipt ← (destination.submit call signer).orFailAt .submitted
    return scheduled .derivative receipt weight fee (some derivative) (some registration)

/-- Schedules a task in the given flow, and never in the other one instead. -/
def through (flow : Flow) (origin destination : Adapter) (request : TaskRequest) (signer : Signer) :
    Scheduling ScheduledTask :=
  match flow with
  | .sovereign => throughSovereign origin destination request signer
  | .derivative => throughDerivative origin destination request signer

/-- The derivative flow where the destination can register tasks, else the sovereign one. -/
def recommendedFlow (destination : Adapter) : Flow :=
  if destination.chain.family.registrar?.isSome then .derivative else .sovereign

/-- The account on the origin that `account` of the destination acts through. -/
def derivativeAccount (origin destination : Adapter) (account : AccountId) :
    Except AdapterError AccountId := do
  return origin.derivativeAccount account (← destination.requireParaId)

/-- Transfers an amount of an asset from the destination to the account on the origin that the
signer acts through, so that it can pay for registrations. -/
def prefund (origin destination : Adapter) (asset : Location) (amount : UInt128)
    (signer : Signer) : Operation (AccountId × Receipt) := do
  let derivative ← derivativeAccount origin destination signer.account
  let place ← origin.location
  let receipt ← destination.transfer place derivative asset amount signer
  return (derivative, receipt)

end Scheduling

end XcmTasks

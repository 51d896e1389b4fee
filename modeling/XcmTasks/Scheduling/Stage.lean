import XcmTasks.Adapter.Error

/-! How far the scheduling of a task comes, and where it ends if it fails. -/

namespace XcmTasks

inductive SchedulingStage where
  | buildingPayload
  | weightsComputed
  | feesComputed
  | extrinsicBuilt
  | submitted
  | finalized
  | rejected
deriving DecidableEq, Repr

def SchedulingStage.text : SchedulingStage → String
  | .buildingPayload => "building_payload"
  | .weightsComputed => "weights_computed"
  | .feesComputed => "fees_computed"
  | .extrinsicBuilt => "extrinsic_built"
  | .submitted => "submitted"
  | .finalized => "finalized"
  | .rejected => "rejected"

inductive SchedulingError where
  | capabilityMissing (chain : String)
  | failed (stage : SchedulingStage) (cause : AdapterError)
deriving DecidableEq, Repr

namespace SchedulingError

/-- An error at a stage. That the chain refused the extrinsic is a stage of its own. -/
def atStage (stage : SchedulingStage) (cause : AdapterError) : SchedulingError :=
  match cause with
  | .rejected _ _ _ => .failed .rejected cause
  | _ => .failed stage cause

def message : SchedulingError → String
  | .capabilityMissing chain =>
    "Chain " ++ chain
      ++ " cannot register tasks on the origin; use the sovereign account flow"
  | .failed stage cause => "Scheduling failed at " ++ stage.text ++ ": " ++ cause.message

def stage? : SchedulingError → Option SchedulingStage
  | .capabilityMissing _ => none
  | .failed stage _ => some stage

def cause? : SchedulingError → Option AdapterError
  | .capabilityMissing _ => none
  | .failed _ cause => some cause

end SchedulingError

end XcmTasks

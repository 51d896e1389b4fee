import XcmTasks.Adapter.Basic
import XcmTasks.Schedule
import XcmTasks.Text.Code

/-! What an origin chain does itself: it schedules tasks, cancels them and tells what they cost. -/

namespace XcmTasks

inductive AutomationAction where
  | notify
  | nativeTransfer
  | xcmp
  | autoCompoundDelegatedStake
  | dynamicDispatch
deriving DecidableEq, Repr

instance : ToJson AutomationAction where
  toJson
    | .notify => .text "Notify"
    | .nativeTransfer => .text "NativeTransfer"
    | .xcmp => .text "XCMP"
    | .autoCompoundDelegatedStake => .text "AutoCompoundDelegatedStake"
    | .dynamicDispatch => .text "DynamicDispatch"

instance : FromDocument AutomationAction where
  read := Document.variantOf
    [("Notify", .plain .notify), ("NativeTransfer", .plain .nativeTransfer),
     ("XCMP", .plain .xcmp), ("AutoCompoundDelegatedStake", .plain .autoCompoundDelegatedStake),
     ("DynamicDispatch", .plain .dynamicDispatch)]

/-- A task to be scheduled, with all its figures. -/
structure TaskOrder where
  schedule : Schedule
  /-- The chain that the task runs on. -/
  destination : Location
  /-- The asset that pays for scheduling. -/
  scheduleFeeLocation : Location
  /-- The asset that pays for the execution, and how much of it. -/
  executionFeeLocation : Location
  executionFeeAmount : UInt128
  transact : XcmWeight
deriving DecidableEq, Repr

namespace TaskOrder

def executionFee (o : TaskOrder) : AssetPayment :=
  ⟨o.executionFeeLocation.versioned, o.executionFeeAmount⟩

def withArguments (o : TaskOrder) (call : Call) : Call :=
  call.arg o.schedule |>.arg o.destination.versioned |>.arg o.scheduleFeeLocation.versioned
    |>.arg o.executionFee |>.arg o.transact.encodedCall |>.arg o.transact.callWeight
    |>.arg o.transact.overallWeight

def scheduleCall (o : TaskOrder) (flow : Flow) : Call :=
  (o.withArguments (.new "AutomationTime" "schedule_xcmp_task")).arg flow

/-- Schedules the task for the account `scheduleAs`. -/
def proxyCall (o : TaskOrder) (scheduleAs : AccountId) : Call :=
  (o.withArguments (.new "AutomationTime" "schedule_xcmp_task_through_proxy")).rawArg
    scheduleAs.bytes

end TaskOrder

/-! ### Amounts in answers -/

/-- A number up to 128 bits with digits of a base, perhaps behind a plus sign. -/
def amountOfDigits? (base : Nat) (cs : List Char) : Option UInt128 := do
  let digits := if cs.head? = some '+' then cs.drop 1 else cs
  if digits.isEmpty then none
  let n ← Text.numberOf? base digits
  if n < UInt128.size then some (BitVec.ofNat 128 n) else none

/-- Leaves out `0x` as often as it comes first. -/
def dropHexMarks : List Char → List Char
  | '0' :: 'x' :: cs => dropHexMarks cs
  | cs => cs

/-- The amount that an answer tells: a whole number of 64 bits, or a text of digits, hexadecimal
ones behind `0x`. -/
def amountOfJson? : Json → Option UInt128
  | .number (.natural n) => if n < UInt64.size then some (BitVec.ofNat 128 n) else none
  | .text s =>
    match s.toList with
    | '0' :: 'x' :: cs => amountOfDigits? 16 (dropHexMarks cs)
    | cs => amountOfDigits? 10 cs
  | _ => none

namespace Adapter

/-- The account that `account` of parachain `paraId` acts through on the chain. -/
def derivativeAccount (a : Adapter) (account : AccountId) (paraId : UInt32) : AccountId :=
  (a.chain.derivation.getD default).derive account paraId a.chain.accountKind

def cancelTask (a : Adapter) (taskId : String) (signer : Signer) : Operation Receipt :=
  a.submit ((Call.new "AutomationTime" "cancel_task").arg (utf8 taskId)) signer

def automationFees (a : Adapter) (action : AutomationAction) (executions : UInt32) :
    Operation UInt128 := do
  let link ← a.requireLink
  let answer ← link.send
    (.rpc "automationTime_getTimeAutomationFees" (.list [toJson action, toJson executions]))
  match amountOfJson? answer with
  | some fee => return fee
  | none => throw (.undecodable ("automation fee is not an amount: " ++ answer.render))

end Adapter

end XcmTasks

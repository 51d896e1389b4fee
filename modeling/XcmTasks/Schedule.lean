import XcmTasks.Location.Wire
import XcmTasks.Location.Json

/-!
When a task runs, who pays for its execution, and in which asset. Times are seconds and are passed
on as they are.
-/

namespace XcmTasks

inductive Schedule where
  | fixed (executionTimes : List UInt64)
  | recurring (nextExecutionTime frequency : UInt64)
deriving DecidableEq, Repr

/-- The first time the task is due, if it ever is. -/
def Schedule.firstExecution? : Schedule → Option UInt64
  | .fixed [] => none
  | .fixed (t :: ts) => some (ts.foldl min t)
  | .recurring next _ => some next

instance : Scale Schedule where
  encode
    | .fixed times => 0 :: encode times
    | .recurring next frequency => 1 :: encode next ++ encode frequency
  decode := do
    match ← Decoder.byte with
    | 0 => return .fixed (← decode)
    | 1 =>
      let next ← decode
      let frequency ← decode
      return .recurring next frequency
    | _ => Decoder.fail

instance : ToJson Schedule where
  toJson
    | .fixed times => .object [("fixed", .object [("execution_times", toJson times)])]
    | .recurring next frequency =>
      .object [("recurring",
        .object [("next_execution_time", toJson next), ("frequency", toJson frequency)])]

open Document Members in
instance : FromDocument Schedule where
  read := variantOf
    [("fixed", .carrying <| recordOf <| (of Schedule.fixed).and (required "execution_times")),
     ("recurring", .carrying <| recordOf <|
        (of Schedule.recurring).and (required "next_execution_time")
          |>.and (required "frequency"))]

structure AssetPayment where
  assetLocation : VersionedLocation
  amount : UInt128
deriving DecidableEq, Repr

instance : Scale AssetPayment where
  encode p := encode p.assetLocation ++ encode p.amount
  decode := do
    let location ← decode
    let amount ← decode
    return ⟨location, amount⟩

instance : ToJson AssetPayment where
  toJson p := .object [("asset_location", toJson p.assetLocation), ("amount", toJson p.amount)]

/-- Who pays for the execution of a task on the destination. -/
inductive Flow where
  /-- The account of the origin chain itself there. -/
  | sovereign
  /-- The account that the user acts through there. -/
  | derivative
deriving DecidableEq, Repr

namespace Flow

/-- How many instructions the origin sends: withdraw, buy execution, transact, refund and deposit,
and before them the descent to the user's account if it is the one that pays. -/
def instructionCount : Flow → UInt64
  | .sovereign => 5
  | .derivative => 6

def text : Flow → String
  | .sovereign => "sovereign"
  | .derivative => "derivative"

end Flow

instance : Scale Flow where
  encode
    | .sovereign => [0]
    | .derivative => [1]
  decode := do
    match ← Decoder.byte with
    | 0 => return .sovereign
    | 1 => return .derivative
    | _ => Decoder.fail

instance : ToJson Flow where
  toJson
    | .sovereign => .text "pay_through_sovereign_account"
    | .derivative => .text "pay_through_remote_derivative_account"

instance : FromDocument Flow where
  read := Document.variantOf
    [("pay_through_sovereign_account", .plain .sovereign),
     ("pay_through_remote_derivative_account", .plain .derivative)]

end XcmTasks

import XcmTasks.Adapter.Basic
import XcmTasks.Xcm

/-!
Registering a task on the origin chain from the chain that it will run on. Two families have a call
for it; the others leave it to the origin's own account.
-/

namespace XcmTasks

inductive Currency where
  | asMultiLocation (location : VersionedLocation)
deriving DecidableEq, Repr

instance : Scale Currency where
  encode
    | .asMultiLocation l => 1 :: encode l
  decode := do
    match ← Decoder.byte with
    | 1 => return .asMultiLocation (← decode)
    | _ => Decoder.fail

structure CurrencyPayment where
  currency : Currency
  feeAmount : Option UInt128
deriving DecidableEq, Repr

instance : Scale CurrencyPayment where
  encode p := encode p.currency ++ encode p.feeAmount
  decode := do
    let currency ← decode
    let feeAmount ← decode
    return ⟨currency, feeAmount⟩

/-- What a call at most weighs on another chain, alone and with the message around it. -/
structure TransactWeights where
  callAtMost : Weight
  overall : Option WeightLimit
deriving DecidableEq, Repr

instance : Scale TransactWeights where
  encode w := encode w.callAtMost ++ encode w.overall
  decode := do
    let callAtMost ← decode
    let overall ← decode
    return ⟨callAtMost, overall⟩

instance : ToJson Currency where
  toJson
    | .asMultiLocation location => .object [("AsMultiLocation", toJson location)]

instance : ToJson CurrencyPayment where
  toJson p := .object [("currency", toJson p.currency), ("fee_amount", toJson p.feeAmount)]

instance : ToJson TransactWeights where
  toJson w := .object
    [("transact_required_weight_at_most", toJson w.callAtMost),
     ("overall_weight", toJson w.overall)]

structure Registration where
  target : Location
  /-- The asset that pays for it, as a sibling of the target sees it. -/
  feeLocation : Location
  transact : TransactInfo
  derivative : AccountId
deriving DecidableEq, Repr

namespace Registration

/-- One call of the chain does all: the runtime sends the message on behalf of the signer. -/
def bySignedTransact (r : Registration) : Call :=
  (Call.new "XcmTransactor" "transact_through_signed").arg r.target.versioned
    |>.arg (CurrencyPayment.mk (.asMultiLocation r.feeLocation.versioned) (some r.transact.fee))
    |>.arg r.transact.encodedCall
    |>.arg (TransactWeights.mk r.transact.callWeight
        (some (.limited r.transact.overallWeight)))
    |>.arg true

/-- The program that the target runs: the account pays, the call runs, and the account gets back
what is left. -/
def program (r : Registration) (targetParaId : UInt32) : Except AdapterError VersionedXcm := do
  let fees := MultiAsset.fungible (r.feeLocation.relativeTo targetParaId) r.transact.fee
  let beneficiary ← (Location.here.push r.derivative.junction).mapError fun e =>
    .configuration ("invalid beneficiary: " ++ e.message)
  return .v3 [.withdrawAsset [fees],
    .buyExecution fees (.limited r.transact.overallWeight),
    .transact .sovereignAccount r.transact.callWeight r.transact.encodedCall,
    .refundSurplus,
    .depositAsset (.wild (.allCounted 1)) beneficiary]

def bySentProgram (r : Registration) : Except AdapterError Call :=
  match r.target.paraId? with
  | some paraId => do
    let program ← r.program paraId
    return (Call.new "PolkadotXcm" "send").arg r.target.versioned |>.arg program
  | none => .error (.configuration
      ("registration target " ++ r.target.describe ++ " is not a sibling parachain"))

end Registration

def ChainFamily.registrar? : ChainFamily → Option (Registration → Except AdapterError Call)
  | .moonbeam => some fun r => .ok r.bySignedTransact
  | .astar => some Registration.bySentProgram
  | .oak => none
  | .mangata => none

end XcmTasks

import XcmTasks.Weight
import XcmTasks.Location.Json

/-! A call that runs on another chain, with what it weighs and costs there. -/

namespace XcmTasks

structure XcmWeight where
  encodedCall : Bytes
  /-- What the call alone weighs. -/
  callWeight : Weight
  /-- What the call and the instructions around it weigh. -/
  overallWeight : Weight
deriving DecidableEq, Repr

structure TransactInfo where
  encodedCall : Bytes
  callWeight : Weight
  overallWeight : Weight
  fee : UInt128
deriving DecidableEq, Repr

def XcmWeight.withFee (w : XcmWeight) (fee : UInt128) : TransactInfo :=
  ⟨w.encodedCall, w.callWeight, w.overallWeight, fee⟩

instance : ToJson XcmWeight where
  toJson w := .object
    [("encoded_call", hexJson w.encodedCall), ("encoded_call_weight", toJson w.callWeight),
     ("overall_weight", toJson w.overallWeight)]

instance : ToJson TransactInfo where
  toJson t := .object
    [("encoded_call", hexJson t.encodedCall), ("encoded_call_weight", toJson t.callWeight),
     ("overall_weight", toJson t.overallWeight), ("fee", toJson t.fee)]

open Document Members

instance : FromDocument XcmWeight where
  read := recordOf <|
    (of XcmWeight.mk).and (one "encoded_call" [] none readHex)
      |>.and (required "encoded_call_weight") |>.and (required "overall_weight")

instance : FromDocument TransactInfo where
  read := recordOf <|
    (of TransactInfo.mk).and (one "encoded_call" [] none readHex)
      |>.and (required "encoded_call_weight") |>.and (required "overall_weight")
      |>.and (required "fee")

end XcmTasks

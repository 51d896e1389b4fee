import XcmTasks.Location.Json
import XcmTasks.Location.Wire
import XcmTasks.Scale.Compact

/-! What the asset registries of chains keep about their foreign assets. -/

namespace XcmTasks

structure AssetRecord (α : Type) where
  decimals : UInt32
  name : Bytes
  symbol : Bytes
  existentialDeposit : UInt128
  location : Option VersionedLocation
  additional : α
deriving DecidableEq, Repr

instance {α : Type} [Scale α] : Scale (AssetRecord α) where
  encode r := encode r.decimals ++ encode r.name ++ encode r.symbol ++ encode r.existentialDeposit
    ++ encode r.location ++ encode r.additional
  decode := do
    let decimals ← decode
    let name ← decode
    let symbol ← decode
    let existentialDeposit ← decode
    let location ← decode
    let additional ← decode
    return ⟨decimals, name, symbol, existentialDeposit, location, additional⟩

structure OakAddition where
  feePerSecond : Option UInt128
  conversionRate : Option UInt128
deriving DecidableEq, Repr

instance : Scale OakAddition where
  encode a := encode a.feePerSecond ++ encode a.conversionRate
  decode := do
    let feePerSecond ← decode
    let conversionRate ← decode
    return ⟨feePerSecond, conversionRate⟩

structure XcmFee where
  feePerSecond : UInt128
deriving DecidableEq, Repr

instance : Scale XcmFee where
  encode a := encode a.feePerSecond
  decode := XcmFee.mk <$> decode

structure TradingRules where
  operationsDisabled : Bool
deriving DecidableEq, Repr

instance : Scale TradingRules where
  encode a := encode a.operationsDisabled
  decode := TradingRules.mk <$> decode

structure MangataAddition where
  xcm : Option XcmFee
  xyk : Option TradingRules
deriving DecidableEq, Repr

instance : Scale MangataAddition where
  encode a := encode a.xcm ++ encode a.xyk
  decode := do
    let xcm ← decode
    let xyk ← decode
    return ⟨xcm, xyk⟩

abbrev OakAsset := AssetRecord OakAddition

abbrev MangataAsset := AssetRecord MangataAddition

/-- How an asset is named where the registry goes by kinds of assets. -/
inductive AssetType where
  | xcm (location : Location)
deriving DecidableEq, Repr

instance : Scale AssetType where
  encode
    | .xcm l => 0 :: encode l
  decode := do
    match ← Decoder.byte with
    | 0 => return .xcm (← decode)
    | _ => Decoder.fail

/-! ### JSON -/

instance {α : Type} [ToJson α] : ToJson (AssetRecord α) where
  toJson r := .object
    [("decimals", toJson r.decimals), ("name", hexJson r.name), ("symbol", hexJson r.symbol),
     ("existential_deposit", toJson r.existentialDeposit), ("location", toJson r.location),
     ("additional", toJson r.additional)]

instance : ToJson OakAddition where
  toJson a := .object
    [("fee_per_second", toJson a.feePerSecond), ("conversion_rate", toJson a.conversionRate)]

instance : ToJson XcmFee where
  toJson a := .object [("fee_per_second", toJson a.feePerSecond)]

instance : ToJson TradingRules where
  toJson a := .object [("operations_disabled", toJson a.operationsDisabled)]

instance : ToJson MangataAddition where
  toJson a := .object [("xcm", toJson a.xcm), ("xyk", toJson a.xyk)]

instance : ToJson AssetType where
  toJson
    | .xcm location => .object [("Xcm", toJson location)]

end XcmTasks

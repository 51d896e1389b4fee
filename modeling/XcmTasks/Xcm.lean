import XcmTasks.Weight
import XcmTasks.Location.Wire
import XcmTasks.Location.Json

/-!
Cross-consensus messages: amounts of assets, and the instructions of the programs that chains send
to each other. The instructions keep the numbers that they have among all those of the format.
-/

namespace XcmTasks

inductive AssetId where
  | concrete (location : Location)
deriving DecidableEq, Repr

inductive Fungibility where
  | fungible (amount : UInt128)
deriving DecidableEq, Repr

structure MultiAsset where
  id : AssetId
  fungibility : Fungibility
deriving DecidableEq, Repr

def MultiAsset.fungible (location : Location) (amount : UInt128) : MultiAsset :=
  ⟨.concrete location, .fungible amount⟩

inductive VersionedMultiAsset where
  | v3 (asset : MultiAsset)
deriving DecidableEq, Repr

inductive VersionedMultiAssets where
  | v3 (assets : List MultiAsset)
deriving DecidableEq, Repr

inductive WeightLimit where
  | unlimited
  | limited (weight : Weight)
deriving DecidableEq, Repr

inductive OriginKind where
  | native
  | sovereignAccount
  | superuser
  | xcm
deriving DecidableEq, Repr

inductive WildMultiAsset where
  | all
  | allCounted (count : UInt32)
deriving DecidableEq, Repr

inductive MultiAssetFilter where
  | definite (assets : List MultiAsset)
  | wild (assets : WildMultiAsset)
deriving DecidableEq, Repr

inductive Instruction where
  | withdrawAsset (assets : List MultiAsset)
  | transact (originKind : OriginKind) (requireWeightAtMost : Weight) (call : Bytes)
  | descendOrigin (path : Junctions)
  | depositAsset (assets : MultiAssetFilter) (beneficiary : Location)
  | buyExecution (fees : MultiAsset) (weightLimit : WeightLimit)
  | refundSurplus
deriving DecidableEq, Repr

inductive VersionedXcm where
  | v3 (instructions : List Instruction)
deriving DecidableEq, Repr

/-! ### Binary form -/

instance : Scale AssetId where
  encode
    | .concrete l => 0 :: encode l
  decode := do
    match ← Decoder.byte with
    | 0 => return .concrete (← decode)
    | _ => Decoder.fail

instance : Scale Fungibility where
  encode
    | .fungible amount => 0 :: Compact.encode128 amount
  decode := do
    match ← Decoder.byte with
    | 0 => return .fungible (← Compact.decode128)
    | _ => Decoder.fail

instance : Scale MultiAsset where
  encode asset := encode asset.id ++ encode asset.fungibility
  decode := do
    let id ← decode
    let fungibility ← decode
    return ⟨id, fungibility⟩

instance : Scale VersionedMultiAsset where
  encode
    | .v3 asset => 3 :: encode asset
  decode := do
    match ← Decoder.byte with
    | 3 => return .v3 (← decode)
    | _ => Decoder.fail

instance : Scale VersionedMultiAssets where
  encode
    | .v3 assets => 3 :: encode assets
  decode := do
    match ← Decoder.byte with
    | 3 => return .v3 (← decode)
    | _ => Decoder.fail

instance : Scale WeightLimit where
  encode
    | .unlimited => [0]
    | .limited weight => 1 :: encode weight
  decode := do
    match ← Decoder.byte with
    | 0 => return .unlimited
    | 1 => return .limited (← decode)
    | _ => Decoder.fail

instance : Scale OriginKind where
  encode
    | .native => [0]
    | .sovereignAccount => [1]
    | .superuser => [2]
    | .xcm => [3]
  decode := do
    match ← Decoder.byte with
    | 0 => return .native
    | 1 => return .sovereignAccount
    | 2 => return .superuser
    | 3 => return .xcm
    | _ => Decoder.fail

instance : Scale WildMultiAsset where
  encode
    | .all => [0]
    | .allCounted count => 2 :: Compact.encode32 count
  decode := do
    match ← Decoder.byte with
    | 0 => return .all
    | 2 => return .allCounted (← Compact.decode32)
    | _ => Decoder.fail

instance : Scale MultiAssetFilter where
  encode
    | .definite assets => 0 :: encode assets
    | .wild assets => 1 :: encode assets
  decode := do
    match ← Decoder.byte with
    | 0 => return .definite (← decode)
    | 1 => return .wild (← decode)
    | _ => Decoder.fail

instance : Scale Instruction where
  encode
    | .withdrawAsset assets => 0 :: encode assets
    | .transact originKind weight call => 6 :: encode originKind ++ encode weight ++ encode call
    | .descendOrigin path => 11 :: encode path
    | .depositAsset assets beneficiary => 13 :: encode assets ++ encode beneficiary
    | .buyExecution fees weightLimit => 19 :: encode fees ++ encode weightLimit
    | .refundSurplus => [20]
  decode := do
    match ← Decoder.byte with
    | 0 => return .withdrawAsset (← decode)
    | 6 =>
      let originKind ← decode
      let weight ← decode
      let call ← decode
      return .transact originKind weight call
    | 11 => return .descendOrigin (← decode)
    | 13 =>
      let assets ← decode
      let beneficiary ← decode
      return .depositAsset assets beneficiary
    | 19 =>
      let fees ← decode
      let weightLimit ← decode
      return .buyExecution fees weightLimit
    | 20 => return .refundSurplus
    | _ => Decoder.fail

instance : Scale VersionedXcm where
  encode
    | .v3 instructions => 3 :: encode instructions
  decode := do
    match ← Decoder.byte with
    | 3 => return .v3 (← decode)
    | _ => Decoder.fail

/-! ### JSON -/

instance : ToJson AssetId where
  toJson
    | .concrete l => .object [("Concrete", toJson l)]

instance : ToJson Fungibility where
  toJson
    | .fungible amount => .object [("Fungible", toJson amount)]

instance : ToJson MultiAsset where
  toJson asset := .object [("id", toJson asset.id), ("fun", toJson asset.fungibility)]

instance : ToJson WeightLimit where
  toJson
    | .unlimited => .text "Unlimited"
    | .limited weight => .object [("Limited", toJson weight)]

instance : ToJson OriginKind where
  toJson
    | .native => .text "Native"
    | .sovereignAccount => .text "SovereignAccount"
    | .superuser => .text "Superuser"
    | .xcm => .text "Xcm"

instance : ToJson VersionedMultiAsset where
  toJson
    | .v3 asset => .object [("V3", toJson asset)]

instance : ToJson VersionedMultiAssets where
  toJson
    | .v3 assets => .object [("V3", toJson assets)]

instance : ToJson WildMultiAsset where
  toJson
    | .all => .text "All"
    | .allCounted n => .object [("AllCounted", toJson n)]

instance : ToJson MultiAssetFilter where
  toJson
    | .definite assets => .object [("Definite", toJson assets)]
    | .wild assets => .object [("Wild", toJson assets)]

instance : ToJson Instruction where
  toJson
    | .withdrawAsset assets => .object [("WithdrawAsset", toJson assets)]
    | .transact kind weight call => .object [("Transact",
        .object [("origin_kind", toJson kind), ("require_weight_at_most", toJson weight),
          ("call", hexJson call)])]
    | .descendOrigin path => .object [("DescendOrigin", toJson path)]
    | .depositAsset assets beneficiary => .object [("DepositAsset",
        .object [("assets", toJson assets), ("beneficiary", toJson beneficiary)])]
    | .buyExecution fees limit => .object [("BuyExecution",
        .object [("fees", toJson fees), ("weight_limit", toJson limit)])]
    | .refundSurplus => .text "RefundSurplus"

instance : ToJson VersionedXcm where
  toJson
    | .v3 program => .object [("V3", toJson program)]

open Document Members

instance : FromDocument AssetId where
  read := variantOf [("Concrete", .carrying fun m d => .concrete <$> read m d)]

instance : FromDocument Fungibility where
  read := variantOf [("Fungible", .carrying fun m d => .fungible <$> read m d)]

instance : FromDocument MultiAsset where
  read := recordOf <| (of MultiAsset.mk).and (required "id") |>.and (required "fun")

instance : FromDocument WeightLimit where
  read := variantOf
    [("Unlimited", .plain .unlimited), ("Limited", .carrying fun m d => .limited <$> read m d)]

instance : FromDocument OriginKind where
  read := variantOf
    [("Native", .plain .native), ("SovereignAccount", .plain .sovereignAccount),
     ("Superuser", .plain .superuser), ("Xcm", .plain .xcm)]

end XcmTasks

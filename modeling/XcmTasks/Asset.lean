import XcmTasks.Location.Json

/-! Fungible assets of a chain, located as a sibling parachain sees them. -/

namespace XcmTasks

structure Asset where
  symbol : String
  decimals : UInt8
  location : Location
  isNative : Bool
deriving DecidableEq, Repr

/-- `amount` whole tokens in the smallest unit, if the number fits. -/
def Asset.units? (asset : Asset) (amount : UInt128) : Option UInt128 :=
  let n := Nat.pow 10 asset.decimals.toNat * amount.toNat
  if Nat.pow 10 asset.decimals.toNat < UInt128.size ∧ n < UInt128.size then
    some (BitVec.ofNat 128 n)
  else none

instance : ToJson Asset where
  toJson asset := .object
    [("symbol", toJson asset.symbol), ("decimals", toJson asset.decimals),
     ("location", toJson asset.location), ("is_native", toJson asset.isNative)]

open Document Members in
instance : FromDocument Asset where
  read := recordOf <|
    (of Asset.mk).and (required "symbol") |>.and (required "decimals")
      |>.and (required "location") |>.and (withDefault "is_native" false)

end XcmTasks

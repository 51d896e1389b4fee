import XcmTasks.Adapter.Basic
import XcmTasks.Xcm

/-!
Transfers of assets to accounts on other chains. Most families take one destination, the account
within its chain; one family takes the chain and the account apart.
-/

namespace XcmTasks

namespace Transfer

/-- The place of an account within a location, where the path has room for it. -/
def accountOn (destination : Location) (beneficiary : AccountId) : Except AdapterError Location :=
  (destination.push beneficiary.junction).mapError fun e =>
    .configuration ("invalid destination: " ++ e.message)

/-- The beneficiary is the last junction of the destination. -/
def byMultiasset (destination : Location) (beneficiary : AccountId) (asset : Location)
    (amount : UInt128) : Except AdapterError Call := do
  let place ← accountOn destination beneficiary
  return (Call.new "XTokens" "transfer_multiasset").arg
      (VersionedMultiAsset.v3 (.fungible asset amount))
    |>.arg place.versioned |>.arg WeightLimit.unlimited

/-- The beneficiary is a location within the destination, and the first asset pays the fees. -/
def reserveCall (destination place asset : Location) (amount : UInt128) : Call :=
  (Call.new "PolkadotXcm" "limited_reserve_transfer_assets").arg destination.versioned
    |>.arg place.versioned
    |>.arg (VersionedMultiAssets.v3 [.fungible asset amount])
    |>.arg (0 : UInt32) |>.arg WeightLimit.unlimited

def byReserve (destination : Location) (beneficiary : AccountId) (asset : Location)
    (amount : UInt128) : Call :=
  reserveCall destination ⟨0, .one beneficiary.junction⟩ asset amount

def call (family : ChainFamily) (destination : Location) (beneficiary : AccountId)
    (asset : Location) (amount : UInt128) : Except AdapterError Call :=
  match family with
  | .astar => do
    let place ← accountOn .here beneficiary
    return reserveCall destination place asset amount
  | _ => byMultiasset destination beneficiary asset amount

/-- There is always room in the empty path. -/
theorem call_eq_byReserve (destination : Location) (beneficiary : AccountId) (asset : Location)
    (amount : UInt128) :
    call .astar destination beneficiary asset amount =
      .ok (byReserve destination beneficiary asset amount) := by
  unfold call accountOn
  rw [Location.push_here]
  rfl

end Transfer

/-- Transfers an amount of an asset, which is named as the sending chain sees it, to an account on
the chain at `destination`. -/
def Adapter.transfer (a : Adapter) (destination : Location) (beneficiary : AccountId)
    (asset : Location) (amount : UInt128) (signer : Signer) : Operation Receipt := do
  let paraId ← a.requireParaId
  let call ← Transfer.call a.chain.family destination beneficiary (asset.relativeTo paraId) amount
  a.submit call signer

end XcmTasks

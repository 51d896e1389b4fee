import XcmTasks.Adapter.AssetRecord
import XcmTasks.Adapter.Basic

/-!
What weights cost on a chain. In the chain's own currency the chain itself tells; in a foreign asset
the price follows from the rate that the chain's registry has for it. A registry is looked up in two
steps, which are the same for all families: first the id of the asset, then the entry with the rate.
-/

namespace XcmTasks

/-- How a family keeps the rates of foreign assets. -/
structure RateTable where
  Id : Type
  Entry : Type
  scaleId : Scale Id
  scaleEntry : Scale Entry
  idKey : Location → StorageKey
  idName : String
  entryKey : Location → Id → StorageKey
  entryName : String
  rate? : Entry → Option UInt128

namespace RateTable

/-- A registry of assets by location, with records by id. -/
def ofRecords {α : Type} [Scale α] (rate? : α → Option UInt128) : RateTable where
  Id := UInt32
  Entry := AssetRecord α
  scaleId := inferInstance
  scaleEntry := inferInstance
  idKey l := .entry "AssetRegistry" "LocationToAssetId" .twox64Concat (encode l)
  idName := "LocationToAssetId"
  entryKey _ id := .entry "AssetRegistry" "Metadata" .twox64Concat (encode id)
  entryName := "AssetMetadata"
  rate? record := rate? record.additional

/-- A registry with ids and with rates, both by location. -/
def ofRates (key : String → Location → StorageKey) (idName rateName : String) : RateTable where
  Id := UInt128
  Entry := UInt128
  scaleId := inferInstance
  scaleEntry := inferInstance
  idKey := key idName
  idName := idName
  entryKey l _ := key rateName l
  entryName := rateName
  rate? := some

end RateTable

def ChainFamily.rateTable : ChainFamily → RateTable
  | .oak => .ofRecords OakAddition.feePerSecond
  | .mangata => .ofRecords fun a : MangataAddition => a.xcm.map XcmFee.feePerSecond
  | .moonbeam =>
    .ofRates (fun item l => .entry "AssetManager" item .blake2x128Concat (encode (AssetType.xcm l)))
      "AssetTypeId" "AssetTypeUnitsPerSecond"
  | .astar =>
    .ofRates (fun item l => .entry "XcAssetConfig" item .twox64Concat (encode l.versioned))
      "AssetLocationToId" "AssetLocationUnitsPerSecond"

namespace Adapter

/-- What the computation of a weight costs at a rate, rounded down. -/
def feeAtRate? (weight : Weight) (rate : UInt128) : Option UInt128 :=
  let scaled := weight.refTime.toNat * rate.toNat
  if scaled < UInt128.size then some (BitVec.ofNat 128 (scaled / refTimePerSecond)) else none

def nativeFee (a : Adapter) (weight : Weight) : Operation UInt128 := do
  (← a.requireLink).send (.weightToFee weight)

/-- The rate of the asset at `own`, as the chain sees it, which goes by `asset` in errors. -/
def foreignRate (a : Adapter) (asset own : Location) : Operation UInt128 := do
  let table := a.chain.family.rateTable
  have := table.scaleId
  have := table.scaleEntry
  let unresolved := AdapterError.unresolvedAsset a.key asset.describe
  match ← a.readStorage table.Id (table.idKey own) table.idName with
  | none => throw (unresolved .notRegistered)
  | some id =>
    match (← a.readStorage table.Entry (table.entryKey own id) table.entryName) >>= table.rate? with
    | none => throw (unresolved .noRate)
    | some rate => return rate

def weightToFee (a : Adapter) (weight : Weight) (asset : Location) : Operation UInt128 := do
  if a.chain.isNativeLocation asset then a.nativeFee weight
  else
    let paraId ← a.requireParaId
    let rate ← a.foreignRate asset (asset.relativeTo paraId)
    match feeAtRate? weight rate with
    | some fee => return fee
    | none => throw (.feeOverflow a.key)

end Adapter

end XcmTasks

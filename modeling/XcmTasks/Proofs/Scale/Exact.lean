import XcmTasks.Proofs.Scale.Message
import XcmTasks.Proofs.Scale.Record

/-!
The formats of all values on the wire, in one place. Each is exact: what is written is read back
whatever follows it, and nothing else is read. The only values without a form are those with a byte
string or a list that is too long for a length of 32 bits.
-/

namespace XcmTasks

open Decoder Canonical

/-! ### Lengths

The byte strings and lists of a value are written behind their lengths.
-/

def Short (lengths : List Nat) : Prop := ∀ n ∈ lengths, n < UInt32.size

theorem short_nil : Short [] := by
  simp [Short]

theorem short_cons {n : Nat} {ns : List Nat} : Short (n :: ns) ↔ n < UInt32.size ∧ Short ns := by
  simp [Short]

theorem fits_list {α : Type} [Scale α] [Canonical α] (h : ∀ a : α, Fits a) (as : List α) :
    Fits as ↔ Short [as.length] := by
  rw [short_cons]
  exact ⟨fun hf => ⟨hf.1, short_nil⟩, fun hs => ⟨hs.1, fun a _ => h a⟩⟩

def Schedule.lengths : Schedule → List Nat
  | .fixed times => [times.length]
  | .recurring _ _ => []

theorem Schedule.fits_iff (schedule : Schedule) : Fits schedule ↔ Short schedule.lengths := by
  cases schedule with
  | fixed times => exact fits_list (fun _ => trivial) times
  | recurring => exact iff_of_true trivial short_nil

def VersionedMultiAssets.lengths : VersionedMultiAssets → List Nat
  | .v3 assets => [assets.length]

theorem VersionedMultiAssets.fits_iff (assets : VersionedMultiAssets) :
    Fits assets ↔ Short assets.lengths := by
  cases assets with
  | v3 assets => exact fits_list (fun _ => trivial) assets

def MultiAssetFilter.lengths : MultiAssetFilter → List Nat
  | .definite assets => [assets.length]
  | .wild _ => []

theorem MultiAssetFilter.fits_iff (filter : MultiAssetFilter) :
    Fits filter ↔ Short filter.lengths := by
  cases filter with
  | definite assets => exact fits_list (fun _ => trivial) assets
  | wild => exact iff_of_true trivial short_nil

def Instruction.lengths : Instruction → List Nat
  | .withdrawAsset assets => [assets.length]
  | .transact _ _ call => [call.length]
  | .descendOrigin _ => []
  | .depositAsset assets _ => assets.lengths
  | .buyExecution _ _ => []
  | .refundSurplus => []

theorem Instruction.fits_iff (instruction : Instruction) :
    Fits instruction ↔ Short instruction.lengths := by
  cases instruction with
  | withdrawAsset assets => exact fits_list (fun _ => trivial) assets
  | transact _ _ call => exact fits_list (fun _ => trivial) call
  | depositAsset assets => exact assets.fits_iff
  | descendOrigin => exact iff_of_true trivial short_nil
  | buyExecution => exact iff_of_true trivial short_nil
  | refundSurplus => exact iff_of_true trivial short_nil

/-- The program is a list itself, and so may be what its instructions carry. -/
def VersionedXcm.lengths : VersionedXcm → List Nat
  | .v3 program => program.length :: program.flatMap Instruction.lengths

theorem VersionedXcm.fits_iff (message : VersionedXcm) : Fits message ↔ Short message.lengths := by
  cases message with
  | v3 program =>
    have each : (∀ i ∈ program, Fits i) ↔ Short (program.flatMap Instruction.lengths) := by
      simp only [Instruction.fits_iff, Short, List.mem_flatMap]
      exact ⟨fun h n ⟨i, hi, hn⟩ => h i hi n hn, fun h i hi n hn => h n ⟨i, hi, hn⟩⟩
    rw [VersionedXcm.lengths, short_cons, ← each]
    exact Iff.rfl

def AssetRecord.lengths {α : Type} (record : AssetRecord α) : List Nat :=
  [record.name.length, record.symbol.length]

theorem AssetRecord.fits_iff {α : Type} [Scale α] [Canonical α] (h : ∀ a : α, Fits a)
    (record : AssetRecord α) : Fits record ↔ Short record.lengths := by
  have name := fits_list (fun _ => trivial) record.name
  have symbol := fits_list (fun _ => trivial) record.symbol
  rw [short_cons] at name
  rw [AssetRecord.lengths, short_cons, ← symbol]
  refine ⟨?_, ?_⟩
  · rintro ⟨⟨hn, hs⟩, -⟩
    exact ⟨(name.mp hn).1, hs⟩
  · rintro ⟨hn, hs⟩
    exact ⟨⟨name.mpr ⟨hn, short_nil⟩, hs⟩, h _⟩

/-! ### Formats -/

/-- A type of values on the wire, with the lengths in a value. -/
structure WireFormat where
  Value : Type
  [scale : Scale Value]
  lengths : Value → List Nat

attribute [instance] WireFormat.scale

namespace WireFormat

def plain (α : Type) [Scale α] : WireFormat := ⟨α, fun _ => []⟩

section
variable {α : Type} [Scale α] [Canonical α] (bytes rest : Bytes)

theorem decode_iff {lengths : α → List Nat} (h : ∀ a : α, Fits a ↔ Short (lengths a)) (a : α) :
    (decode : Decoder α) bytes = some (a, rest) ↔ Short (lengths a) ∧ bytes = encode a ++ rest := by
  rw [decode_eq_some_iff, h]

theorem decode_plain_iff (h : ∀ a : α, Fits a) (a : (plain α).Value) :
    (decode : Decoder (plain α).Value) bytes = some (a, rest) ↔
      Short ((plain α).lengths a) ∧ bytes = encode a ++ rest :=
  decode_iff bytes rest (fun a => iff_of_true (h a) short_nil) a

end

end WireFormat

/-- The kinds of values that are put on the wire. -/
inductive WireKind where
  | weight
  | networkId
  | generalKey
  | junction
  | junctions
  | location
  | versionedLocation
  | schedule
  | flow
  | assetPayment
  | assetId
  | fungibility
  | multiAsset
  | versionedMultiAsset
  | versionedMultiAssets
  | weightLimit
  | originKind
  | wildMultiAsset
  | multiAssetFilter
  | instruction
  | versionedXcm
  | assetType
  | currency
  | currencyPayment
  | transactWeights
  | xcmFee
  | tradingRules
  | oakAddition
  | mangataAddition
  | oakAsset
  | mangataAsset
deriving DecidableEq, Repr

namespace WireKind

def format : WireKind → WireFormat
  | weight => .plain Weight
  | networkId => .plain NetworkId
  | generalKey => .plain GeneralKey
  | junction => .plain Junction
  | junctions => .plain Junctions
  | location => .plain Location
  | versionedLocation => .plain VersionedLocation
  | schedule => ⟨Schedule, Schedule.lengths⟩
  | flow => .plain Flow
  | assetPayment => .plain AssetPayment
  | assetId => .plain AssetId
  | fungibility => .plain Fungibility
  | multiAsset => .plain MultiAsset
  | versionedMultiAsset => .plain VersionedMultiAsset
  | versionedMultiAssets => ⟨VersionedMultiAssets, VersionedMultiAssets.lengths⟩
  | weightLimit => .plain WeightLimit
  | originKind => .plain OriginKind
  | wildMultiAsset => .plain WildMultiAsset
  | multiAssetFilter => ⟨MultiAssetFilter, MultiAssetFilter.lengths⟩
  | instruction => ⟨Instruction, Instruction.lengths⟩
  | versionedXcm => ⟨VersionedXcm, VersionedXcm.lengths⟩
  | assetType => .plain AssetType
  | currency => .plain Currency
  | currencyPayment => .plain CurrencyPayment
  | transactWeights => .plain TransactWeights
  | xcmFee => .plain XcmFee
  | tradingRules => .plain TradingRules
  | oakAddition => .plain OakAddition
  | mangataAddition => .plain MangataAddition
  | oakAsset => ⟨OakAsset, AssetRecord.lengths⟩
  | mangataAsset => ⟨MangataAsset, AssetRecord.lengths⟩

/-- Bytes are read as a value and a rest exactly if they are what is written for the value with the
rest behind it, and the value is short enough to be written. -/
theorem format_exact (k : WireKind) (value : k.format.Value) (bytes rest : Bytes) :
    (decode : Decoder k.format.Value) bytes = some (value, rest) ↔
      Short (k.format.lengths value) ∧ bytes = encode value ++ rest := by
  open WireFormat in
  cases k with
  | schedule => exact decode_iff bytes rest Schedule.fits_iff value
  | versionedMultiAssets => exact decode_iff bytes rest VersionedMultiAssets.fits_iff value
  | multiAssetFilter => exact decode_iff bytes rest MultiAssetFilter.fits_iff value
  | instruction => exact decode_iff bytes rest Instruction.fits_iff value
  | versionedXcm => exact decode_iff bytes rest VersionedXcm.fits_iff value
  | oakAsset => exact decode_iff bytes rest (AssetRecord.fits_iff fun _ => trivial) value
  | mangataAsset => exact decode_iff bytes rest (AssetRecord.fits_iff fun _ => trivial) value
  | _ => exact decode_plain_iff bytes rest (fun _ => trivial) value

end WireKind

end XcmTasks

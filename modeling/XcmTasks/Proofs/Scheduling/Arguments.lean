import XcmTasks.Adapter.Automation
import XcmTasks.Proofs.Scale.Message

/-!
The arguments of the calls that schedule and register tasks. They can be read back from the bytes of
a call, one after another and with nothing left over, so calls with the same bytes say the same. The
account in a proxy call stands at the end without a length.
-/

namespace XcmTasks

open Canonical

abbrev OrderArguments :=
  Schedule × VersionedLocation × VersionedLocation × AssetPayment × Bytes × Weight × Weight

abbrev ScheduleArguments :=
  Schedule × VersionedLocation × VersionedLocation × AssetPayment × Bytes × Weight × Weight × Flow

abbrev SignedTransactArguments :=
  VersionedLocation × CurrencyPayment × Bytes × TransactWeights × Bool

abbrev SendArguments := VersionedLocation × VersionedXcm

namespace TaskOrder

end TaskOrder

theorem AccountId.kind_ofFront (kind : AccountKind) (bytes : Bytes) :
    (ofFront kind bytes).kind = kind := by
  cases kind <;> rfl

namespace Registration

end Registration

/-- A call of a family carries a registration with its weight and its fee to parachain `o`, and
nothing else. -/
inductive Carries (family : ChainFamily) (o : UInt32) (feeLocation : Location) (weight : XcmWeight)
    (fee : UInt128) (derivative : AccountId) : Call → Prop where
  | bySignedTransact {args : Bytes} (hf : family = .moonbeam)
      (ha : Fits weight.encodedCall →
        (decode : Decoder SignedTransactArguments) args =
          some ((.v3 (.siblingParachain o), ⟨.asMultiLocation (.v3 feeLocation), some fee⟩,
            weight.encodedCall, ⟨weight.callWeight, some (.limited weight.overallWeight)⟩, true),
            [])) :
      Carries family o feeLocation weight fee derivative
        ⟨"XcmTransactor", "transact_through_signed", args⟩
  | bySentProgram {args : Bytes} (hf : family = .astar)
      (ha : Fits weight.encodedCall →
        (decode : Decoder SendArguments) args =
          some ((.v3 (.siblingParachain o),
            .v3 [.withdrawAsset [.fungible (feeLocation.relativeTo o) fee],
              .buyExecution (.fungible (feeLocation.relativeTo o) fee)
                (.limited weight.overallWeight),
              .transact .sovereignAccount weight.callWeight weight.encodedCall,
              .refundSurplus,
              .depositAsset (.wild (.allCounted 1)) ⟨0, .one derivative.junction⟩]), [])) :
      Carries family o feeLocation weight fee derivative ⟨"PolkadotXcm", "send", args⟩

end XcmTasks

import XcmTasks.Adapter.Transfer
import XcmTasks.Chain.Local
import XcmTasks.Proofs.Adapter.Errands
import XcmTasks.Proofs.Scale.Message

/-!
Transfers of assets to accounts on other chains. Some are refused before anybody is asked: those of
chains without a para id, and those to a full path that the beneficiary should stand at the end of.
Any other transfer is one submission. The arguments of its call can be read back, and what is read
is the asset as the chain sees it, the amount, the beneficiary and the destination.
-/

namespace XcmTasks

open Dialogue Canonical

/-! ### The end of a path -/

section
variable {l : Location}

theorem Location.push_of_full (hf : l.interior.toList.length = maxJunctions) {junction : Junction} :
    l.push junction = .error ⟨maxJunctions + 1⟩ := by
  unfold push Junctions.push Junctions.ofList
  rw [dif_neg (by simp [hf]), List.length_append, hf]
  rfl

theorem Location.exists_push (hf : l.interior.toList.length ≠ maxJunctions) (junction : Junction) :
    ∃ place, l.push junction = .ok place ∧ place.parents = l.parents ∧
      place.interior.toList = l.interior.toList ++ [junction] := by
  have le := l.interior.length_le
  have room : (l.interior.toList ++ [junction]).length ≤ maxJunctions := by
    rw [List.length_append, List.length_singleton]
    omega
  unfold push Junctions.push Junctions.ofList
  rw [dif_pos room]
  exact ⟨_, rfl, rfl, rfl⟩

end

/-- The junction leads to the account, in its own width and on no network in particular. -/
inductive Junction.Names : AccountId → Junction → Prop where
  | id32 (id : FixedBytes 32) : Names (.id32 id) (.accountId32 none id)
  | key20 (key : FixedBytes 20) : Names (.key20 key) (.accountKey20 none key)

theorem Junction.names_iff {account : AccountId} {junction : Junction} :
    Names account junction ↔ junction = account.junction := by
  constructor
  · intro h
    cases h <;> rfl
  · rintro rfl
    cases account with
    | id32 id => exact .id32 id
    | key20 key => exact .key20 key

/-! ### Calls -/

abbrev MultiassetArguments := VersionedMultiAsset × VersionedLocation × WeightLimit

abbrev ReserveArguments :=
  VersionedLocation × VersionedLocation × VersionedMultiAssets × UInt32 × WeightLimit

namespace Transfer

/-- The call of a chain of the family transfers the amount of the asset to the beneficiary at the
destination, as its arguments tell when they are read to the end. -/
inductive Conveys (destination : Location) (beneficiary : AccountId) (asset : Location)
    (amount : UInt128) : ChainFamily → Call → Prop where
  | byMultiasset {family : ChainFamily} {place : Location} {last : Junction} {args : Bytes}
      (hf : family ≠ .astar) (hn : Junction.Names beneficiary last)
      (hp : place.parents = destination.parents)
      (hi : place.interior.toList = destination.interior.toList ++ [last])
      (ha : (decode : Decoder MultiassetArguments) args =
        some ((.v3 (.fungible asset amount), .v3 place, .unlimited), [])) :
      Conveys destination beneficiary asset amount family ⟨"XTokens", "transfer_multiasset", args⟩
  | byReserve {last : Junction} {args : Bytes} (hn : Junction.Names beneficiary last)
      (ha : (decode : Decoder ReserveArguments) args =
        some ((.v3 destination, .v3 ⟨0, .one last⟩, .v3 [.fungible asset amount], 0, .unlimited),
          [])) :
      Conveys destination beneficiary asset amount .astar
        ⟨"PolkadotXcm", "limited_reserve_transfer_assets", args⟩

/-- The beneficiary should stand at the end of a path that has no room for it. -/
def Full (family : ChainFamily) (destination : Location) : Prop :=
  family ≠ .astar ∧ destination.interior.toList.length = maxJunctions

instance {family : ChainFamily} {destination : Location} : Decidable (Full family destination) :=
  inferInstanceAs (Decidable (_ ∧ _))

section
variable {family : ChainFamily} {destination asset : Location} {beneficiary : AccountId}
variable {amount : UInt128}

theorem call_eq_byMultiasset (hf : family ≠ .astar) :
    call family destination beneficiary asset amount =
      byMultiasset destination beneficiary asset amount := by
  cases family with
  | astar => exact absurd rfl hf
  | oak => rfl
  | moonbeam => rfl
  | mangata => rfl

theorem call_of_full (hf : Full family destination) :
    call family destination beneficiary asset amount = .error (.configuration
      ("invalid destination: " ++ (TooManyJunctions.mk (maxJunctions + 1)).message)) := by
  rw [call_eq_byMultiasset hf.1]
  unfold byMultiasset accountOn
  rw [Location.push_of_full hf.2]
  rfl

theorem exists_byMultiasset (ha : family ≠ .astar)
    (hf : destination.interior.toList.length ≠ maxJunctions) :
    ∃ call, byMultiasset destination beneficiary asset amount = .ok call ∧
      Conveys destination beneficiary asset amount family call := by
  obtain ⟨place, pushed, parents, path⟩ := Location.exists_push hf beneficiary.junction
  have names := Junction.names_iff.mpr (Eq.refl beneficiary.junction)
  unfold byMultiasset accountOn
  rw [pushed]
  refine ⟨_, rfl, .byMultiasset ha names parents path ?_⟩
  rw [decode_eq_some_iff]
  refine ⟨⟨trivial, trivial, trivial⟩, ?_⟩
  simp [Call.arg, Call.new, Location.versioned, encode]

theorem conveys_byReserve :
    Conveys destination beneficiary asset amount .astar
      (byReserve destination beneficiary asset amount) := by
  refine .byReserve (Junction.names_iff.mpr rfl) ?_
  rw [decode_eq_some_iff]
  refine ⟨⟨trivial, trivial, ?_, trivial, trivial⟩, ?_⟩
  · exact ⟨by simp, fun _ _ => trivial⟩
  · simp [Call.arg, Call.new, Location.versioned, encode]

/-- A family has a call for a transfer as long as there is room for the beneficiary, and the call is
one that transfers to it. -/
theorem exists_call (destination asset : Location) (beneficiary : AccountId) (amount : UInt128)
    (hf : ¬ Full family destination) :
    ∃ call, Transfer.call family destination beneficiary asset amount = .ok call ∧
      Conveys destination beneficiary asset amount family call := by
  by_cases ha : family = .astar
  · subst ha
    exact ⟨_, call_eq_byReserve destination beneficiary asset amount, conveys_byReserve⟩
  · rw [call_eq_byMultiasset ha]
    apply exists_byMultiasset ha
    intro full
    exact hf ⟨ha, full⟩

end

end Transfer

namespace Adapter

variable {a : Adapter} {destination asset : Location} {beneficiary : AccountId} {amount : UInt128}
variable {signer : Signer} {call : Call} {paraId : UInt32} {t : Transcript}
variable {r : Except AdapterError Receipt}

/-! ### Refusals -/

theorem transfer_of_homeless (hp : a.chain.paraId = none) :
    a.transfer destination beneficiary asset amount signer =
      throw (.configuration ("chain " ++ a.key ++ " has no para id")) := by
  unfold transfer
  rw [requireParaId_of_none hp, liftError_bind]

theorem transfer_of_full (hp : a.chain.paraId = some paraId)
    (hf : Transfer.Full a.chain.family destination) :
    a.transfer destination beneficiary asset amount signer =
      throw (.configuration
        ("invalid destination: " ++ (TooManyJunctions.mk (maxJunctions + 1)).message)) := by
  unfold transfer
  rw [requireParaId_of_some hp, liftOk_bind, Transfer.call_of_full hf, liftError_bind]

theorem transfer_of_call (hp : a.chain.paraId = some paraId)
    (hc : Transfer.call a.chain.family destination beneficiary (asset.relativeTo paraId) amount =
      .ok call) :
    a.transfer destination beneficiary asset amount signer = a.submit call signer := by
  unfold transfer
  rw [requireParaId_of_some hp, liftOk_bind, hc, liftOk_bind]

/-! ### Runs -/

inductive Transferring (a : Adapter) (destination : Location) (beneficiary : AccountId)
    (asset : Location) (amount : UInt128) (signer : Signer) :
    Transcript → Except AdapterError Receipt → Prop where
  | homeless (hp : a.chain.paraId = none) :
      Transferring a destination beneficiary asset amount signer []
        (.error (.configuration ("chain " ++ a.key ++ " has no para id")))
  | full {paraId : UInt32} (hp : a.chain.paraId = some paraId)
      (hf : Transfer.Full a.chain.family destination) :
      Transferring a destination beneficiary asset amount signer [] (.error (.configuration
        ("invalid destination: " ++ (TooManyJunctions.mk (maxJunctions + 1)).message)))
  | submitting {paraId : UInt32} {call : Call} {t : Transcript} {r : Except AdapterError Receipt}
      (hp : a.chain.paraId = some paraId)
      (hc : Transfer.call a.chain.family destination beneficiary (asset.relativeTo paraId) amount =
        .ok call)
      (hs : Submitting a call signer t r) :
      Transferring a destination beneficiary asset amount signer t r

theorem runs_transfer :
    Runs (a.transfer destination beneficiary asset amount signer).run t r ↔
      Transferring a destination beneficiary asset amount signer t r := by
  constructor
  · intro h
    cases hp : a.chain.paraId with
    | none =>
      rw [transfer_of_homeless hp, runs_throw] at h
      obtain ⟨rfl, rfl⟩ := h
      exact .homeless hp
    | some paraId =>
      by_cases hf : Transfer.Full a.chain.family destination
      · rw [transfer_of_full hp hf, runs_throw] at h
        obtain ⟨rfl, rfl⟩ := h
        exact .full hp hf
      · obtain ⟨call, hc, -⟩ := Transfer.exists_call destination (asset.relativeTo paraId)
          beneficiary amount hf
        rw [transfer_of_call hp hc] at h
        exact .submitting hp hc (runs_submit.mp h)
  · intro h
    cases h with
    | homeless hp =>
      rw [transfer_of_homeless hp]
      exact runs_throw.mpr ⟨rfl, rfl⟩
    | full hp hf =>
      rw [transfer_of_full hp hf]
      exact runs_throw.mpr ⟨rfl, rfl⟩
    | submitting hp hc hs =>
      rw [transfer_of_call hp hc]
      exact runs_submit.mpr hs

/-- A submission over a link sends the call at most once, signed by the signer. -/
theorem Submitting.sent {link : Link} (hl : a.link = some link) (h : Submitting a call signer t r) :
    t.length ≤ 1 ∧ ∀ x ∈ t, ∃ bytes,
      link.encodeCall call = .ok bytes ∧ x.1 = .send link (.submit bytes signer) := by
  cases h with
  | unlinked hn => cases hl.symm.trans hn
  | unencodable => simp
  | unanswered hl' hc | refused hl' hc | accepted hl' hc =>
    cases hl.symm.trans hl'
    exact ⟨Nat.le_refl 1, List.forall_mem_singleton.mpr ⟨_, hc, rfl⟩⟩

namespace Sample

def sender : Signer := ⟨.id32 .zero, fun _ => .ok []⟩

def line : Link := ⟨0, fun call => .ok call.args⟩

def linked : Adapter := ⟨.turing, some line⟩

end Sample

end Adapter

end XcmTasks

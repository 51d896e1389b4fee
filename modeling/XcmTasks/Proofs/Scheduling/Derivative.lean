import XcmTasks.Proofs.Adapter.Transfers
import XcmTasks.Proofs.Scheduling.Arguments
import XcmTasks.Proofs.Scheduling.Order

/-!
The account that a signer of the destination acts through on the origin. One may ask for it, fund it
ahead, and schedule tasks as it. All of these come to the same account: the one that is funded is
the one that the registration is dry-run as, whose bytes the registration ends with, that gets back
what is left of the fees, and that the task is reported for.
-/

namespace XcmTasks

open Dialogue hiding bind_assoc
open Adapter

/-! ### Transfers -/

/-- The call transfers an amount of an asset to an account on parachain `o`. -/
inductive Transfer.Pays (o : UInt32) (account : AccountId) (asset : Location) (amount : UInt128) :
    Call → Prop where
  | byMultiasset {place : Location} {args : Bytes} (hp : place.parents = 1)
      (hi : place.interior.toList = [.parachain o, account.junction])
      (ha : (decode : Decoder MultiassetArguments) args =
        some ((.v3 (.fungible asset amount), .v3 place, .unlimited), [])) :
      Pays o account asset amount ⟨"XTokens", "transfer_multiasset", args⟩
  | byReserve {args : Bytes}
      (ha : (decode : Decoder ReserveArguments) args =
        some ((.v3 (.siblingParachain o), .v3 ⟨0, .one account.junction⟩,
          .v3 [.fungible asset amount], 0, .unlimited), [])) :
      Pays o account asset amount ⟨"PolkadotXcm", "limited_reserve_transfer_assets", args⟩

theorem Transfer.Conveys.pays {o : UInt32} {account : AccountId} {asset : Location}
    {amount : UInt128} {family : ChainFamily} {call : Call}
    (h : Conveys (.siblingParachain o) account asset amount family call) :
    Pays o account asset amount call := by
  cases h with
  | byMultiasset _ hn hp hi ha =>
    obtain rfl := Junction.names_iff.mp hn
    exact .byMultiasset hp hi ha
  | byReserve hn ha =>
    obtain rfl := Junction.names_iff.mp hn
    exact .byReserve ha

theorem Location.siblingParachain_room (family : ChainFamily) (o : UInt32) :
    ¬ Transfer.Full family (.siblingParachain o) := by
  rintro ⟨-, full⟩
  simp [siblingParachain, Junctions.one, maxJunctions] at full

namespace Scheduling

/-! ### Dry runs -/

/-- A call that is dry-run over a link as an account. -/
structure DryRun where
  link : Link
  call : Bytes
  sender : AccountId

/-- The dry run that an exchange asks for. -/
def dryRun? : Exchange Action Action.Answer → Option DryRun
  | ⟨.send link (.paymentInfo call sender), _⟩ => some ⟨link, call, sender⟩
  | _ => none

def dryRuns (t : Transcript) : List DryRun := t.filterMap dryRun?

theorem dryRuns_append (t t' : Transcript) : dryRuns (t ++ t') = dryRuns t ++ dryRuns t' :=
  List.filterMap_append

/-- It is the dry run of this call as this account, over the link of the adapter. -/
structure DryRun.Of (a : Adapter) (call : Call) (sender : AccountId) (dry : DryRun) : Prop where
  linked : a.link = some dry.link
  encoded : dry.link.encodeCall call = .ok dry.call
  sender : dry.sender = sender

section
variable {a : Adapter} {call : Call} {sender : AccountId} {asset : Location} {t : Transcript}

theorem dryRuns_of_weighing {instructions : UInt64} {r : Except AdapterError XcmWeight}
    (h : Weighing a call sender instructions t r) :
    (dryRuns t = [] ∧ ∃ e, r = .error e) ∨ ∃ dry, dryRuns t = [dry] ∧ dry.Of a call sender := by
  cases h with
  | unlinked => exact .inl ⟨rfl, _, rfl⟩
  | unencodable => exact .inl ⟨rfl, _, rfl⟩
  | unanswered hl hc => exact .inr ⟨_, rfl, hl, hc, rfl⟩
  | overflowing hl hc => exact .inr ⟨_, rfl, hl, hc, rfl⟩
  | weighed hl hc => exact .inr ⟨_, rfl, hl, hc, rfl⟩

theorem dryRuns_of_pricing {weight : Weight} {r : Except AdapterError UInt128}
    (h : Pricing a weight asset t r) : dryRuns t = [] := by
  obtain ⟨fees, hf, ha⟩ := h.asked
  refine List.filterMap_eq_nil_iff.mpr (ha.forall_mem fun e he x hs => ?_)
  obtain ⟨errand, hm, rfl⟩ := List.mem_map.mp he
  obtain ⟨action, reply⟩ := x
  cases hs with
  | weigh => cases hf <;> simp at hm
  | price => rfl
  | read => rfl
  | submit => rfl

theorem dryRuns_of_submitting {signer : Signer} {r : Except AdapterError Receipt}
    (h : Submitting a call signer t r) : dryRuns t = [] := by
  cases h <;> rfl

theorem submissions_of_submitting {signer : Signer} {r : Except AdapterError Receipt}
    (h : Submitting a call signer t r) :
    ∀ s ∈ submissions t, a.link = some s.1 ∧ s.1.encodeCall call = .ok s.2.1 ∧ s.2.2 = signer := by
  cases h with
  | unlinked => exact nofun
  | unencodable => exact nofun
  | unanswered hl hc => exact List.forall_mem_singleton.mpr ⟨hl, hc, rfl⟩
  | refused hl hc => exact List.forall_mem_singleton.mpr ⟨hl, hc, rfl⟩
  | accepted hl hc => exact List.forall_mem_singleton.mpr ⟨hl, hc, rfl⟩

theorem dryRuns_of_weighed {instructions : UInt64} {figures : XcmWeight} {weight : Weight}
    {t' : Transcript} {r : Except AdapterError UInt128}
    (hw : Weighing a call sender instructions t (.ok figures)) (hp : Pricing a weight asset t' r) :
    ∃ dry, dryRuns (t ++ t') = [dry] ∧ dry.Of a call sender := by
  rw [dryRuns_append, dryRuns_of_pricing hp, List.append_nil]
  rcases dryRuns_of_weighing hw with ⟨-, e, he⟩ | hd
  · cases he
  · exact hd

theorem dryRuns_of_quoting {flow : Flow} {r : Except SchedulingError (XcmWeight × UInt128)}
    (h : Quoting a call sender asset flow t r) :
    (dryRuns t = [] ∧ ∃ e, r = .error e) ∨ ∃ dry, dryRuns t = [dry] ∧ dry.Of a call sender := by
  cases h with
  | unweighed hw =>
    rcases dryRuns_of_weighing hw with ⟨hn, -⟩ | hd
    · exact .inl ⟨hn, _, rfl⟩
    · exact .inr hd
  | unpriced hw hp => exact .inr (dryRuns_of_weighed hw hp)
  | quoted hw hp => exact .inr (dryRuns_of_weighed hw hp)

end

/-! ### Funding the account -/

section
variable {origin destination : Adapter} {signer : Signer} {asset : Location} {amount : UInt128}
variable {t : Transcript}

/-- What is transferred ahead goes to the account on the origin, and it is the account that is told
of. -/
structure Prefunds (origin destination : Adapter) (asset : Location) (amount : UInt128)
    (signer : Signer) (account : AccountId) (t : Transcript)
    (r : Except AdapterError (AccountId × Receipt)) : Prop where
  returned : ∀ funded, r = .ok funded → funded.1 = account
  sent : ∀ s ∈ submissions t, ∃ o call, origin.chain.paraId = some o ∧
    destination.link = some s.1 ∧ s.1.encodeCall call = .ok s.2.1 ∧ s.2.2 = signer ∧
    Transfer.Pays o account (destination.chain.ownView asset) amount call

theorem derivativeAccount_of_some {d : UInt32} (hd : destination.chain.paraId = some d)
    (account : AccountId) :
    derivativeAccount origin destination account = .ok (origin.derivativeAccount account d) := by
  unfold derivativeAccount
  rw [requireParaId_of_some hd]
  rfl

theorem transfer_sibling {d : UInt32} (hd : destination.chain.paraId = some d) (o : UInt32)
    (account : AccountId) :
    ∃ call, Transfer.Pays o account (destination.chain.ownView asset) amount call ∧
      destination.transfer (.siblingParachain o) account asset amount signer =
        destination.submit call signer := by
  obtain ⟨call, hcall, conveys⟩ := Transfer.exists_call (.siblingParachain o)
    (asset.relativeTo d) account amount (Location.siblingParachain_room destination.chain.family o)
  rw [Chain.ownView_of_paraId hd]
  exact ⟨call, conveys.pays, transfer_of_call hd hcall⟩

/-- To fund the account is to submit a transfer to it. -/
theorem runs_prefund {o d : UInt32} (ho : origin.chain.paraId = some o)
    (hd : destination.chain.paraId = some d) (asset : Location) (amount : UInt128)
    (signer : Signer) :
    ∃ call, Transfer.Pays o (origin.derivativeAccount signer.account d)
        (destination.chain.ownView asset) amount call ∧
      ∀ {t : Transcript} {r : Except AdapterError (AccountId × Receipt)},
        Runs (prefund origin destination asset amount signer).run t r ↔
          ∃ r', Submitting destination call signer t r' ∧
            r = r'.map fun receipt => (origin.derivativeAccount signer.account d, receipt) := by
  obtain ⟨call, hpays, htransfer⟩ := transfer_sibling hd o
    (origin.derivativeAccount signer.account d)
  refine ⟨call, hpays, ?_⟩
  intro t r
  unfold prefund
  rw [derivativeAccount_of_some hd, liftOk_bind, location_of_some ho, liftOk_bind, htransfer,
    runs_except_bind]
  simp only [runs_submit, runs_except_pure]
  refine ⟨?_, ?_⟩
  · rintro (⟨e, hs, rfl⟩ | ⟨t', _, receipt, hs, ⟨rfl, rfl⟩, rfl⟩)
    · exact ⟨.error e, hs, rfl⟩
    · rw [List.append_nil]
      exact ⟨.ok receipt, hs, rfl⟩
  · rintro ⟨e | receipt, hs, rfl⟩
    · exact .inl ⟨e, hs, rfl⟩
    · exact .inr ⟨t, [], receipt, hs, ⟨rfl, rfl⟩, (List.append_nil t).symm⟩

theorem prefunds_of_runs {d : UInt32} {r : Except AdapterError (AccountId × Receipt)}
    (hd : destination.chain.paraId = some d)
    (h : Runs (prefund origin destination asset amount signer).run t r) :
    Prefunds origin destination asset amount signer (origin.derivativeAccount signer.account d) t
      r := by
  cases ho : origin.chain.paraId with
  | none =>
    unfold prefund at h
    rw [derivativeAccount_of_some hd, liftOk_bind, location_of_none ho, liftError_bind,
      runs_throw] at h
    obtain ⟨rfl, rfl⟩ := h
    refine ⟨?_, List.forall_mem_nil _⟩
    intro funded hf
    cases hf
  | some o =>
    obtain ⟨call, hpays, hruns⟩ := runs_prefund ho hd asset amount signer
    obtain ⟨r', hs, rfl⟩ := hruns.mp h
    refine ⟨?_, ?_⟩
    · intro funded hf
      cases r' with
      | error e => cases hf
      | ok receipt =>
        cases hf
        rfl
    · intro s hm
      obtain ⟨hl, hc, hsigner⟩ := submissions_of_submitting hs s hm
      exact ⟨o, call, ho, hl, hc, hsigner, hpays⟩

end

/-! ### Acting as the account -/

section
variable {origin destination : Adapter} {request : TaskRequest} {signer : Signer}
variable {t : Transcript}

/-- What a run has dry-run: at most the payload on the destination as the signer, and behind it the
registration, which ends with the account's bytes, on the origin as the account. -/
inductive Tried (origin destination : Adapter) (request : TaskRequest) (signer : Signer)
    (account : AccountId) : List DryRun → Prop where
  | nothing : Tried origin destination request signer account []
  | payload {payload : DryRun} (hp : payload.Of destination request.payload signer.account) :
      Tried origin destination request signer account [payload]
  | registration {payload registration : DryRun} (order : OrderArguments)
      (hp : payload.Of destination request.payload signer.account)
      (hr : registration.Of origin ⟨"AutomationTime", "schedule_xcmp_task_through_proxy",
        encode order ++ account.bytes⟩ account) :
      Tried origin destination request signer account [payload, registration]

/-- The call sends a program that runs a registration and leaves what remains to the account. -/
inductive Refunds (account : AccountId) : Call → Prop where
  | bySentProgram (target : VersionedLocation) (fees : MultiAsset) (limit : WeightLimit)
      (weight : Weight) (registration : Bytes) :
      Refunds account ⟨"PolkadotXcm", "send", encode target ++ encode (VersionedXcm.v3
        [.withdrawAsset [fees], .buyExecution fees limit,
          .transact .sovereignAccount weight registration, .refundSurplus,
          .depositAsset (.wild (.allCounted 1)) ⟨0, .one account.junction⟩])⟩

/-- What a run of the derivative flow does on the origin it does as the account. -/
structure ActsAs (origin destination : Adapter) (request : TaskRequest) (signer : Signer)
    (account : AccountId) (t : Transcript) (r : Except SchedulingError ScheduledTask) : Prop where
  tried : Tried origin destination request signer account (dryRuns t)
  refunded : ∀ s ∈ submissions t, ∃ call, s.1.encodeCall call = .ok s.2.1 ∧
    (destination.chain.family = .astar → Refunds account call)
  reported : ∀ task, r = .ok task → task.scheduleAs = some account

theorem proxyCall_eq (o : TaskOrder) (account : AccountId) :
    ∃ order : OrderArguments, o.proxyCall account =
      ⟨"AutomationTime", "schedule_xcmp_task_through_proxy", encode order ++ account.bytes⟩ := by
  refine ⟨(o.schedule, o.destination.versioned, o.scheduleFeeLocation.versioned, o.executionFee,
    o.transact.encodedCall, o.transact.callWeight, o.transact.overallWeight), ?_⟩
  simp [TaskOrder.proxyCall, TaskOrder.withArguments, Call.arg, Call.rawArg, Call.new, encode]

theorem refunds_of_registrar {family : ChainFamily}
    {registrar : Registration → Except AdapterError Call}
    (hr : family.registrar? = some registrar) {o : UInt32} {fees : Location} {info : TransactInfo}
    {account : AccountId} {call : Call}
    (hc : registrar ⟨.siblingParachain o, fees, info, account⟩ = .ok call)
    (hf : family = .astar) : Refunds account call := by
  subst hf
  cases hr
  cases hc
  exact .bySentProgram _ _ _ _ _

theorem tried_of_quotings {o : TaskOrder} {account : AccountId} {asset asset' : Location}
    {flow : Flow} {t' : Transcript} {figures : XcmWeight × UInt128}
    {r : Except SchedulingError (XcmWeight × UInt128)}
    (hq : Quoting destination request.payload signer.account asset flow t (.ok figures))
    (hq' : Quoting origin (o.proxyCall account) account asset' flow t' r) :
    Tried origin destination request signer account (dryRuns (t ++ t')) := by
  rw [dryRuns_append]
  rcases dryRuns_of_quoting hq with ⟨-, e, he⟩ | ⟨payload, hd, hof⟩
  · cases he
  · rw [hd]
    rcases dryRuns_of_quoting hq' with ⟨hn, -⟩ | ⟨registration, hd', hof'⟩
    · rw [hn]
      exact .payload hof
    · obtain ⟨order, hcall⟩ := proxyCall_eq o account
      rw [hd']
      rw [hcall] at hof'
      exact .registration order hof hof'

/-- A run that submits nothing and fails acts as the account as far as it dry-runs as it. -/
theorem ActsAs.of_failed {account : AccountId} {e : SchedulingError}
    (ht : Tried origin destination request signer account (dryRuns t)) (hs : submissions t = []) :
    ActsAs origin destination request signer account t (.error e) := by
  refine ⟨ht, ?_, ?_⟩
  · rw [hs]
    exact List.forall_mem_nil _
  · intro task h
    cases h

theorem actsAs_of_course {d : UInt32} {r : Except SchedulingError ScheduledTask}
    (hd : destination.chain.paraId = some d)
    (h : Course origin destination request signer .derivative t r) :
    ActsAs origin destination request signer (origin.derivativeAccount signer.account d) t r := by
  cases h with
  | incapable => exact .of_failed .nothing rfl
  | homelessDestination => exact .of_failed .nothing rfl
  | homelessOrigin => exact .of_failed .nothing rfl
  | unquoted _ _ _ hq =>
    refine .of_failed ?_ hq.quiet.1
    rcases dryRuns_of_quoting hq with ⟨hn, -⟩ | ⟨payload, hp, hof⟩
    · rw [hn]
      exact .nothing
    · rw [hp]
      exact .payload hof
  | unquotedOrigin _ hd' _ hq hq' =>
    cases hd.symm.trans hd'
    refine .of_failed (tried_of_quotings hq hq') ?_
    rw [submissions_append, hq.quiet.1, hq'.quiet.1]
    rfl
  | submitting hp hs =>
    -- of all courses this one alone submits, and the program for it is in hand by then
    cases hp with
    | derivative hr hd' _ hq hq' hc =>
      cases hd.symm.trans hd'
      refine ⟨?_, ?_, ?_⟩
      · rw [dryRuns_append, dryRuns_of_submitting hs, List.append_nil]
        exact tried_of_quotings hq hq'
      · rw [submissions_append, submissions_append, hq.quiet.1, hq'.quiet.1]
        intro s hm
        obtain ⟨-, henc, -⟩ := submissions_of_submitting hs s hm
        exact ⟨_, henc, refunds_of_registrar hr hc⟩
      · intro task ht
        cases hs with
        | accepted =>
          cases ht
          rfl
        | _ => cases ht

/-- All ways to the account that a signer of the destination acts through lead to the same one,
which is derived from the signer's account and the number of the destination in the width of the
origin. -/
theorem one_derivative {d : UInt32} (hd : destination.chain.paraId = some d) :
    ∃ account, account = (origin.chain.derivation.getD default).derive signer.account d
        origin.chain.accountKind ∧
      account.kind = origin.chain.accountKind ∧
      derivativeAccount origin destination signer.account = .ok account ∧
      (∀ {asset : Location} {amount : UInt128} {t : Transcript}
        {r : Except AdapterError (AccountId × Receipt)},
        Runs (prefund origin destination asset amount signer).run t r →
          Prefunds origin destination asset amount signer account t r) ∧
      ∀ {request : TaskRequest} {t : Transcript} {r : Except SchedulingError ScheduledTask},
        Runs (through .derivative origin destination request signer).run t r →
          ActsAs origin destination request signer account t r := by
  refine ⟨origin.derivativeAccount signer.account d, rfl, AccountId.kind_ofFront _ _,
    derivativeAccount_of_some hd _, ?_, ?_⟩
  · intro asset amount t r h
    exact prefunds_of_runs hd h
  · intro request t r h
    exact actsAs_of_course hd (runs_through.mp h)

end

theorem Sample.prefunded (asset : Location) (amount : UInt128) :
    ∃ t receipt, Runs (prefund (adapter .turing) (adapter .shibuya) asset amount signer).run t
        (.ok ((adapter .turing).derivativeAccount signer.account 2000, receipt)) ∧
      submissions t ≠ [] := by
  have ho : (adapter .turing).chain.paraId = some 2114 := rfl
  have hd : (adapter .shibuya).chain.paraId = some 2000 := rfl
  obtain ⟨call, -, hruns⟩ := runs_prefund ho hd asset amount signer
  refine ⟨_, _, hruns.mpr ⟨_, submitting .shibuya call, rfl⟩, ?_⟩
  simp [submissions, submission?]

/-- A signer of one chain funds the account on another, and has a task scheduled there as it. -/
theorem one_derivative_shibuya :
    (Sample.adapter .shibuya).chain.paraId = some 2000 ∧
      ∃ account t task t' receipt, Runs (through .derivative (Sample.adapter .turing)
          (Sample.adapter .shibuya) (Sample.request .turing .shibuya) Sample.signer).run t
          (.ok task) ∧ submissions t ≠ [] ∧
        Runs (prefund (Sample.adapter .turing) (Sample.adapter .shibuya) .here 1 Sample.signer).run
          t' (.ok (account, receipt)) ∧ submissions t' ≠ [] ∧
        derivativeAccount (Sample.adapter .turing) (Sample.adapter .shibuya)
          Sample.signer.account = .ok account ∧
        account = (default : Derivation).derive Sample.signer.account 2000 .id32 ∧
        task.scheduleAs = some account ∧
        Prefunds (Sample.adapter .turing) (Sample.adapter .shibuya) .here 1 Sample.signer account t'
          (.ok (account, receipt)) ∧
        ActsAs (Sample.adapter .turing) (Sample.adapter .shibuya) (Sample.request .turing .shibuya)
          Sample.signer account t (.ok task) := by
  obtain ⟨t, task, hcourse, hsent⟩ := Sample.derivative_scheduled
  have run := runs_of_course hcourse
  obtain ⟨t', receipt, funding, hpaid⟩ := Sample.prefunded .here 1
  obtain ⟨account, derived, -, asked, prefunding, acting⟩ := one_derivative
    (show (Sample.adapter .shibuya).chain.paraId = some 2000 from rfl)
  subst derived
  have funds := prefunding funding
  have acts := acting run
  exact ⟨rfl, _, t, task, t', receipt, run, hsent, funding, hpaid, asked, rfl,
    acts.reported task rfl, funds, acts⟩

end Scheduling

end XcmTasks

import XcmTasks.Adapter.Basic
import XcmTasks.Proofs.Dialogue

/-!
What the operations of an adapter ask of its chain, and what comes of the answers. Each operation
has a relation with one constructor for each way that it may go, and its runs are exactly those.
Connecting and disconnecting tell what becomes of the adapter as well.
-/

namespace XcmTasks

open Dialogue

abbrev Transcript := List (Exchange Action Action.Answer)

variable {t : Transcript}

/-! ### Requests -/

theorem runs_talkSend {link : Link} {request : Request} {reply : Except NodeError request.Answer} :
    Runs (Talk.send link request) t reply ↔ t = [⟨.send link request, reply⟩] :=
  runs_question

theorem runs_send {link : Link} {request : Request} {r : Except AdapterError request.Answer} :
    Runs (link.send request).run t r ↔
      ∃ reply : Except NodeError request.Answer,
        t = [⟨.send link request, reply⟩] ∧ r = reply.mapError .ofNode := by
  unfold Link.send
  rw [runs_except_bind]
  simp only [runs_lift]
  refine ⟨?_, ?_⟩
  · rintro (⟨e, ⟨_, _, h⟩, _⟩ | ⟨t₁, t₂, reply, ⟨_, hq, h⟩, hr, rfl⟩)
    · cases h
    · cases h
      obtain rfl := runs_talkSend.mp hq
      refine ⟨reply, ?_⟩
      cases reply with
      | ok answer =>
        obtain ⟨rfl, rfl⟩ := runs_except_pure.mp hr
        exact ⟨by simp, rfl⟩
      | error e =>
        obtain ⟨rfl, rfl⟩ := runs_throw.mp hr
        exact ⟨by simp, rfl⟩
  · rintro ⟨reply, rfl, rfl⟩
    refine .inr ⟨_, [], reply, ⟨reply, runs_talkSend.mpr rfl, rfl⟩, ?_, by simp⟩
    cases reply with
    | ok answer => exact runs_except_pure.mpr ⟨rfl, rfl⟩
    | error e => exact runs_throw.mpr ⟨rfl, rfl⟩

theorem runs_send_bind {α : Type} {link : Link} {request : Request}
    {f : request.Answer → Operation α} {r : Except AdapterError α} :
    Runs (link.send request >>= f).run t r ↔
      (∃ e : NodeError, t = [⟨.send link request, .error e⟩] ∧ r = .error (.ofNode e)) ∨
        ∃ (answer : request.Answer) (t' : Transcript),
          t = ⟨.send link request, .ok answer⟩ :: t' ∧ Runs (f answer).run t' r := by
  rw [runs_except_bind]
  simp only [runs_send]
  refine ⟨?_, ?_⟩
  · rintro (⟨e, ⟨reply | reply, rfl, h⟩, rfl⟩ | ⟨t₁, t₂, a, ⟨reply | reply, rfl, h⟩, hf, rfl⟩)
    · cases h
      exact .inl ⟨reply, rfl, rfl⟩
    · cases h
    · cases h
    · cases h
      exact .inr ⟨_, t₂, rfl, hf⟩
  · rintro (⟨e, rfl, rfl⟩ | ⟨answer, t', rfl, hf⟩)
    · exact .inl ⟨_, ⟨.error e, rfl, rfl⟩, rfl⟩
    · exact .inr ⟨[_], t', answer, ⟨.ok answer, rfl, rfl⟩, hf, rfl⟩

/-- The error is not that the chain refused an extrinsic. -/
def AdapterError.Unrefused : AdapterError → Prop
  | .rejected _ _ _ => False
  | _ => True

theorem AdapterError.Unrefused.ofNode (e : NodeError) : (AdapterError.ofNode e).Unrefused := by
  cases e <;> trivial

namespace Adapter

variable {a : Adapter} {link : Link} {call : Call}

theorem requireLink_of_some (hl : a.link = some link) : a.requireLink = pure link := by
  unfold requireLink
  rw [hl]

theorem requireLink_of_none (hl : a.link = none) :
    a.requireLink = throw (.notInitialized a.key) := by
  unfold requireLink
  rw [hl]

theorem encoded_of_ok {bytes : Bytes} (hc : link.encodeCall call = .ok bytes) :
    link.encoded call = pure bytes := by
  unfold Link.encoded
  rw [hc]

theorem encoded_of_error {e : NodeError} (hc : link.encodeCall call = .error e) :
    link.encoded call = throw (.ofNode e) := by
  unfold Link.encoded
  rw [hc]

theorem runs_sendCall {α : Type} {request : Bytes → Request}
    {f : (bytes : Bytes) → (request bytes).Answer → Operation α} {r : Except AdapterError α} :
    Runs (do
        let link ← a.requireLink
        let bytes ← link.encoded call
        let answer ← link.send (request bytes)
        f bytes answer : Operation α).run t r ↔
      (a.link = none ∧ t = [] ∧ r = .error (.notInitialized a.key)) ∨
      (∃ link e, a.link = some link ∧ link.encodeCall call = .error e ∧ t = [] ∧
        r = .error (.ofNode e)) ∨
      (∃ link bytes, a.link = some link ∧ link.encodeCall call = .ok bytes ∧
        ∃ e : NodeError, t = [⟨.send link (request bytes), .error e⟩] ∧
          r = .error (.ofNode e)) ∨
      ∃ link bytes, a.link = some link ∧ link.encodeCall call = .ok bytes ∧
        ∃ (answer : (request bytes).Answer) (t' : Transcript),
          t = ⟨.send link (request bytes), .ok answer⟩ :: t' ∧ Runs (f bytes answer).run t' r := by
  cases hl : a.link with
  | none =>
    rw [requireLink_of_none hl, throw_bind, runs_throw]
    simp
  | some link =>
    rw [requireLink_of_some hl, pure_bind]
    cases hc : link.encodeCall call with
    | error e =>
      rw [encoded_of_error hc, throw_bind, runs_throw]
      simp [hc]
    | ok bytes =>
      rw [encoded_of_ok hc, pure_bind, runs_send_bind]
      simp [hc]

/-! ### Weighing a call -/

/-- How the weighing of a call may go. -/
inductive Weighing (a : Adapter) (call : Call) (sender : AccountId) (instructions : UInt64) :
    Transcript → Except AdapterError XcmWeight → Prop where
  | unlinked (hl : a.link = none) :
      Weighing a call sender instructions [] (.error (.notInitialized a.key))
  | unencodable {link : Link} {e : NodeError} (hl : a.link = some link)
      (hc : link.encodeCall call = .error e) :
      Weighing a call sender instructions [] (.error (.ofNode e))
  | unanswered {link : Link} {bytes : Bytes} {e : NodeError} (hl : a.link = some link)
      (hc : link.encodeCall call = .ok bytes) :
      Weighing a call sender instructions [⟨.send link (.paymentInfo bytes sender), .error e⟩]
        (.error (.ofNode e))
  | overflowing {link : Link} {bytes : Bytes} {info : PaymentInfo} (hl : a.link = some link)
      (hc : link.encodeCall call = .ok bytes)
      (ho : a.overallWeight? info.weight instructions = none) :
      Weighing a call sender instructions [⟨.send link (.paymentInfo bytes sender), .ok info⟩]
        (.error (.weightOverflow a.key))
  | weighed {link : Link} {bytes : Bytes} {info : PaymentInfo} {overall : Weight}
      (hl : a.link = some link) (hc : link.encodeCall call = .ok bytes)
      (ho : a.overallWeight? info.weight instructions = some overall) :
      Weighing a call sender instructions [⟨.send link (.paymentInfo bytes sender), .ok info⟩]
        (.ok ⟨bytes, info.weight, overall⟩)

theorem runs_xcmWeight {sender : AccountId} {instructions : UInt64}
    {r : Except AdapterError XcmWeight} :
    Runs (a.xcmWeight call sender instructions).run t r ↔
      Weighing a call sender instructions t r := by
  unfold xcmWeight
  rw [runs_sendCall]
  refine ⟨?_, ?_⟩
  · rintro (⟨hl, rfl, rfl⟩ | ⟨link, e, hl, hc, rfl, rfl⟩ | ⟨link, bytes, hl, hc, e, rfl, rfl⟩ |
      ⟨link, bytes, hl, hc, info, t', rfl, h⟩)
    · exact .unlinked hl
    · exact .unencodable hl hc
    · exact .unanswered hl hc
    · cases ho : a.overallWeight? info.weight instructions with
      | none =>
        simp only [ho, runs_throw] at h
        obtain ⟨rfl, rfl⟩ := h
        exact .overflowing hl hc ho
      | some overall =>
        simp only [ho, runs_except_pure] at h
        obtain ⟨rfl, rfl⟩ := h
        exact .weighed hl hc ho
  · intro h
    cases h with
    | unlinked hl => exact .inl ⟨hl, rfl, rfl⟩
    | unencodable hl hc => exact .inr (.inl ⟨_, _, hl, hc, rfl, rfl⟩)
    | unanswered hl hc => exact .inr (.inr (.inl ⟨_, _, hl, hc, _, rfl, rfl⟩))
    | overflowing hl hc ho =>
      exact .inr (.inr (.inr ⟨_, _, hl, hc, _, [], rfl, by simp [ho]⟩))
    | weighed hl hc ho => exact .inr (.inr (.inr ⟨_, _, hl, hc, _, [], rfl, by simp [ho]⟩))

theorem Weighing.unrefused {sender : AccountId} {instructions : UInt64} {e : AdapterError}
    (h : Weighing a call sender instructions t (.error e)) : e.Unrefused := by
  cases h with
  | unlinked => trivial
  | unencodable => exact .ofNode _
  | unanswered => exact .ofNode _
  | overflowing => trivial

/-! ### Reading an entry of the storage -/

inductive Lookup (a : Adapter) (α : Type) [Scale α] (key : StorageKey) (what : String) :
    Transcript → Except AdapterError (Option α) → Prop where
  | unlinked (hl : a.link = none) : Lookup a α key what [] (.error (.notInitialized a.key))
  | unanswered {link : Link} {e : NodeError} (hl : a.link = some link) :
      Lookup a α key what [⟨.send link (.storage key), .error e⟩] (.error (.ofNode e))
  | absent {link : Link} (hl : a.link = some link) :
      Lookup a α key what [⟨.send link (.storage key), .ok (none : Option Bytes)⟩] (.ok none)
  | undecodable {link : Link} {bytes : Bytes} (hl : a.link = some link)
      (hd : decodeFront α bytes = none) :
      Lookup a α key what [⟨.send link (.storage key), .ok (some bytes)⟩]
        (.error (.undecodable (what ++ " on " ++ a.key ++ ": " ++ Decoder.failureText)))
  | present {link : Link} {bytes : Bytes} {value : α} (hl : a.link = some link)
      (hd : decodeFront α bytes = some value) :
      Lookup a α key what [⟨.send link (.storage key), .ok (some bytes)⟩] (.ok (some value))

theorem runs_readStorage {α : Type} [Scale α] {key : StorageKey} {what : String}
    {r : Except AdapterError (Option α)} :
    Runs (a.readStorage α key what).run t r ↔ Lookup a α key what t r := by
  refine ⟨?_, ?_⟩
  · intro h
    unfold readStorage at h
    cases hl : a.link with
    | none =>
      rw [requireLink_of_none hl, throw_bind, runs_throw] at h
      obtain ⟨rfl, rfl⟩ := h
      exact .unlinked hl
    | some link =>
      rw [requireLink_of_some hl, pure_bind, runs_send_bind] at h
      rcases h with ⟨e, rfl, rfl⟩ | ⟨_ | bytes, t', rfl, h⟩
      · exact .unanswered hl
      · obtain ⟨rfl, rfl⟩ := runs_except_pure.mp h
        exact .absent hl
      · cases hd : decodeFront α bytes with
        | none =>
          simp only [hd, runs_throw] at h
          obtain ⟨rfl, rfl⟩ := h
          exact .undecodable hl hd
        | some value =>
          simp only [hd, runs_except_pure] at h
          obtain ⟨rfl, rfl⟩ := h
          exact .present hl hd
  · intro h
    unfold readStorage
    cases h with
    | unlinked hl =>
      rw [requireLink_of_none hl]
      exact runs_throw.mpr ⟨rfl, rfl⟩
    | unanswered hl =>
      rw [requireLink_of_some hl, pure_bind, runs_send_bind]
      exact .inl ⟨_, rfl, rfl⟩
    | absent hl =>
      rw [requireLink_of_some hl, pure_bind, runs_send_bind]
      exact .inr ⟨none, [], rfl, runs_except_pure.mpr ⟨rfl, rfl⟩⟩
    | undecodable hl hd =>
      rw [requireLink_of_some hl, pure_bind, runs_send_bind]
      exact .inr ⟨some _, [], rfl, by simp [hd]⟩
    | present hl hd =>
      rw [requireLink_of_some hl, pure_bind, runs_send_bind]
      exact .inr ⟨some _, [], rfl, by simp [hd]⟩

theorem Lookup.unrefused {α : Type} [Scale α] {key : StorageKey} {what : String}
    {e : AdapterError} (h : Lookup a α key what t (.error e)) : e.Unrefused := by
  cases h with
  | unlinked => trivial
  | unanswered => exact .ofNode _
  | undecodable => trivial

/-! ### Submitting a call -/

inductive Submitting (a : Adapter) (call : Call) (signer : Signer) :
    Transcript → Except AdapterError Receipt → Prop where
  | unlinked (hl : a.link = none) : Submitting a call signer [] (.error (.notInitialized a.key))
  | unencodable {link : Link} {e : NodeError} (hl : a.link = some link)
      (hc : link.encodeCall call = .error e) : Submitting a call signer [] (.error (.ofNode e))
  | unanswered {link : Link} {bytes : Bytes} {e : NodeError} (hl : a.link = some link)
      (hc : link.encodeCall call = .ok bytes) :
      Submitting a call signer [⟨.send link (.submit bytes signer), .error e⟩]
        (.error (.ofNode e))
  | refused {link : Link} {bytes : Bytes} {receipt : Receipt} {pallet name : String}
      (hl : a.link = some link) (hc : link.encodeCall call = .ok bytes)
      (hd : receipt.dispatchError? = some (pallet, name)) :
      Submitting a call signer [⟨.send link (.submit bytes signer), .ok receipt⟩]
        (.error (.rejected a.key pallet name))
  | accepted {link : Link} {bytes : Bytes} {receipt : Receipt} (hl : a.link = some link)
      (hc : link.encodeCall call = .ok bytes) (hd : receipt.dispatchError? = none) :
      Submitting a call signer [⟨.send link (.submit bytes signer), .ok receipt⟩] (.ok receipt)

theorem runs_submit {signer : Signer} {r : Except AdapterError Receipt} :
    Runs (a.submit call signer).run t r ↔ Submitting a call signer t r := by
  unfold submit
  rw [runs_sendCall]
  refine ⟨?_, ?_⟩
  · rintro (⟨hl, rfl, rfl⟩ | ⟨link, e, hl, hc, rfl, rfl⟩ | ⟨link, bytes, hl, hc, e, rfl, rfl⟩ |
      ⟨link, bytes, hl, hc, receipt, t', rfl, h⟩)
    · exact .unlinked hl
    · exact .unencodable hl hc
    · exact .unanswered hl hc
    · cases hd : Receipt.dispatchError? receipt with
      | none =>
        simp only [hd] at h
        obtain ⟨rfl, rfl⟩ := runs_except_pure.mp h
        exact .accepted hl hc hd
      | some error =>
        simp only [hd] at h
        obtain ⟨rfl, rfl⟩ := runs_throw.mp h
        exact .refused hl hc hd
  · intro h
    cases h with
    | unlinked hl => exact .inl ⟨hl, rfl, rfl⟩
    | unencodable hl hc => exact .inr (.inl ⟨_, _, hl, hc, rfl, rfl⟩)
    | unanswered hl hc => exact .inr (.inr (.inl ⟨_, _, hl, hc, _, rfl, rfl⟩))
    | refused hl hc hd =>
      refine .inr (.inr (.inr ⟨_, _, hl, hc, _, [], rfl, ?_⟩))
      simp only [hd]
      exact runs_throw.mpr ⟨rfl, rfl⟩
    | accepted hl hc hd =>
      refine .inr (.inr (.inr ⟨_, _, hl, hc, _, [], rfl, ?_⟩))
      simp only [hd]
      exact runs_except_pure.mpr ⟨rfl, rfl⟩

/-! ### Connecting and disconnecting -/

inductive Connecting (a : Adapter) : Transcript → Except AdapterError Unit → Adapter → Prop where
  | already {link : Link} (hl : a.link = some link) :
      Connecting a [] (.error (.alreadyInitialized a.key)) a
  | unreachable {e : NodeError} (hl : a.link = none) :
      Connecting a [⟨.connect a.chain, .error e⟩] (.error (.ofNode e)) a
  | connected {link : Link} (hl : a.link = none) :
      Connecting a [⟨.connect a.chain, .ok link⟩] (.ok ()) { a with link := some link }

inductive Disconnecting (a : Adapter) :
    Transcript → Except AdapterError Unit → Adapter → Prop where
  | unlinked (hl : a.link = none) : Disconnecting a [] (.error (.notInitialized a.key)) a
  | released {link : Link} {reply : Except NodeError Unit} (hl : a.link = some link) :
      Disconnecting a [⟨.send link .disconnect, reply⟩] (reply.mapError .ofNode)
        { a with link := none }

theorem runs_connect {a' : Adapter} {r : Except AdapterError Unit} :
    Runs a.connect t (r, a') ↔ Connecting a t r a' := by
  unfold connect
  cases hl : a.link with
  | some link =>
    refine Iff.trans runs_pure ⟨?_, ?_⟩
    · rintro ⟨rfl, h⟩
      cases h
      exact .already hl
    · intro h
      cases h with
      | already => exact ⟨rfl, rfl⟩
      | unreachable hn => cases hl.symm.trans hn
      | connected hn => cases hl.symm.trans hn
  | none =>
    refine Iff.trans runs_bind ⟨?_, ?_⟩
    · rintro ⟨t₁, t₂, e | link, hq, h, rfl⟩
      · obtain rfl := runs_question.mp hq
        obtain ⟨rfl, h⟩ := runs_pure.mp h
        cases h
        exact .unreachable hl
      · obtain rfl := runs_question.mp hq
        obtain ⟨rfl, h⟩ := runs_pure.mp h
        cases h
        exact .connected hl
    · intro h
      cases h with
      | already hs => cases hl.symm.trans hs
      | unreachable =>
        exact ⟨_, [], .error _, runs_question.mpr rfl, runs_pure.mpr ⟨rfl, rfl⟩, rfl⟩
      | connected =>
        exact ⟨_, [], .ok _, runs_question.mpr rfl, runs_pure.mpr ⟨rfl, rfl⟩, rfl⟩

theorem runs_disconnect {a' : Adapter} {r : Except AdapterError Unit} :
    Runs a.disconnect t (r, a') ↔ Disconnecting a t r a' := by
  unfold disconnect
  cases hl : a.link with
  | none =>
    refine Iff.trans runs_pure ⟨?_, ?_⟩
    · rintro ⟨rfl, h⟩
      cases h
      exact .unlinked hl
    · intro h
      cases h with
      | unlinked => exact ⟨rfl, rfl⟩
      | released hs => cases hl.symm.trans hs
  | some link =>
    refine Iff.trans runs_bind ⟨?_, ?_⟩
    · rintro ⟨t₁, t₂, reply, hq, h, rfl⟩
      obtain rfl := runs_talkSend.mp hq
      cases reply with
      | error e =>
        obtain ⟨rfl, h⟩ := runs_pure.mp h
        cases h
        exact .released hl
      | ok u =>
        obtain ⟨rfl, h⟩ := runs_pure.mp h
        cases h
        exact .released hl
    · intro h
      cases h with
      | unlinked hn => cases hl.symm.trans hn
      | @released link' reply hs =>
        cases hl.symm.trans hs
        refine ⟨_, [], reply, runs_talkSend.mpr rfl, ?_, rfl⟩
        cases reply with
        | error e => exact runs_pure.mpr ⟨rfl, rfl⟩
        | ok u => exact runs_pure.mpr ⟨rfl, rfl⟩

end Adapter

end XcmTasks

import XcmTasks.Adapter.Automation
import XcmTasks.Proofs.Adapter.Transfers

/-!
The lives of adapters. An adapter is new, then goes through any steps in any order with any answers
to what it asks. A step either leaves the link of the adapter as it is, and then only uses it, or
opens a link where there is none, or gives one up and tells the node so.
-/

namespace XcmTasks

open Dialogue

def Request.closes : Request → Bool
  | .disconnect => true
  | _ => false

def Link.Carries (link : Link) : Exchange Action Action.Answer → Prop
  | ⟨.send used request, _⟩ => used = link ∧ request.closes = false
  | ⟨.connect _, _⟩ => False

namespace Adapter

/-! ### Steps -/

/-- What an adapter can be used for while it has a link. The last two are for chains that schedule
tasks. -/
inductive Use where
  | encodeCall (call : Call)
  | xcmWeight (call : Call) (sender : AccountId) (instructions : UInt64)
  | weightToFee (weight : Weight) (asset : Location)
  | transfer (destination : Location) (beneficiary : AccountId) (asset : Location)
      (amount : UInt128) (signer : Signer)
  | submit (call : Call) (signer : Signer)
  | cancelTask (taskId : String) (signer : Signer)
  | automationFees (action : AutomationAction) (executions : UInt32)

namespace Use

def Result : Use → Type
  | .encodeCall _ => Bytes
  | .xcmWeight _ _ _ => XcmWeight
  | .weightToFee _ _ | .automationFees _ _ => UInt128
  | .transfer _ _ _ _ _ | .submit _ _ | .cancelTask _ _ => Receipt

def operation (a : Adapter) : (u : Use) → Operation u.Result
  | .encodeCall call => a.encodeCall call
  | .xcmWeight call sender instructions => a.xcmWeight call sender instructions
  | .weightToFee weight asset => a.weightToFee weight asset
  | .transfer destination beneficiary asset amount signer =>
    a.transfer destination beneficiary asset amount signer
  | .submit call signer => a.submit call signer
  | .cancelTask taskId signer => a.cancelTask taskId signer
  | .automationFees action executions => a.automationFees action executions

/-- What the use fails with where there is no link. Foreign assets and transfers need a place among
the siblings first, and some transfers room for the beneficiary in the path of the destination. -/
def refusal (chain : Chain) : Use → AdapterError
  | .weightToFee _ asset =>
    if chain.isNativeLocation asset = false ∧ chain.paraId = none then
      .configuration ("chain " ++ chain.key ++ " has no para id")
    else .notInitialized chain.key
  | .transfer destination _ _ _ _ =>
    if chain.paraId = none then .configuration ("chain " ++ chain.key ++ " has no para id")
    else if chain.family ≠ .astar ∧ destination.interior.toList.length = maxJunctions then
      .configuration ("invalid destination: " ++ (TooManyJunctions.mk (maxJunctions + 1)).message)
    else .notInitialized chain.key
  | _ => .notInitialized chain.key

end Use

inductive Step where
  | connect
  | disconnect
  | isReady
  | use (u : Use)

namespace Step

def Result : Step → Type
  | .connect | .disconnect => Except AdapterError Unit
  | .isReady => Bool
  | .use u => Except AdapterError u.Result

def perform (a : Adapter) : (step : Step) → Talk (step.Result × Adapter)
  | .connect => a.connect
  | .disconnect => a.disconnect
  | .isReady => return (a.isReady, a)
  | .use u => do return (← (u.operation a).run, a)

end Step

/-- A step that has been taken, with what was asked and answered and with its result. -/
structure Turn where
  step : Step
  exchanges : Transcript
  result : step.Result

/-- An adapter of the chain may have come to this through these turns. -/
inductive Life (chain : Chain) : List Turn → Adapter → Prop where
  | new : Life chain [] (.new chain)
  | snoc {turns : List Turn} {a a' : Adapter} (turn : Turn) (h : Life chain turns a)
      (hr : Runs (turn.step.perform a) turn.exchanges (turn.result, a')) :
      Life chain (turns ++ [turn]) a'

def transcript (turns : List Turn) : Transcript := turns.flatMap Turn.exchanges

theorem transcript_snoc (turns : List Turn) (turn : Turn) :
    transcript (turns ++ [turn]) = transcript turns ++ turn.exchanges := by
  simp [transcript]

variable {a a' : Adapter} {t : Transcript}

/-! ### Uses -/

def Asks (a : Adapter) (exchange : Exchange Action Action.Answer) : Prop :=
  ∃ link, a.link = some link ∧ link.Carries exchange

theorem Errand.Sent.asks {errand : Errand} {exchange : Exchange Action Action.Answer}
    (h : errand.Sent a exchange.1) : a.Asks exchange := by
  obtain ⟨action, reply⟩ := exchange
  cases h with
  | weigh hl => exact ⟨_, hl, rfl, rfl⟩
  | price hl => exact ⟨_, hl, rfl, rfl⟩
  | read hl => exact ⟨_, hl, rfl, rfl⟩
  | submit hl => exact ⟨_, hl, rfl, rfl⟩

theorem AskedFirst.asks {errands : List Errand} (h : AskedFirst (errands.map (a, ·)) t) :
    ∀ x ∈ t, a.Asks x := by
  refine h.forall_mem fun e he x hs => ?_
  obtain ⟨_, _, rfl⟩ := List.mem_map.mp he
  exact hs.asks

theorem asks_of_asked_one {errand : Errand} (h : t = [] ∨ Asked [(a, errand)] t) :
    ∀ x ∈ t, a.Asks x := by
  rcases h with rfl | h
  · exact List.forall_mem_nil _
  · have first : AskedFirst ([errand].map (a, ·)) t := h.first
    exact first.asks

theorem Submitting.asks {call : Call} {signer : Signer} {r : Except AdapterError Receipt}
    (h : Submitting a call signer t r) : ∀ x ∈ t, a.Asks x := asks_of_asked_one h.asked

theorem nil_of_encodeCall {call : Call} {r : Except AdapterError Bytes}
    (h : Runs (a.encodeCall call).run t r) : t = [] := by
  unfold encodeCall at h
  cases hl : a.link with
  | none =>
    rw [requireLink_of_none hl, throw_bind, runs_throw] at h
    exact h.1
  | some link =>
    rw [requireLink_of_some hl, pure_bind] at h
    cases hc : link.encodeCall call with
    | error e =>
      rw [encoded_of_error hc, runs_throw] at h
      exact h.1
    | ok bytes =>
      rw [encoded_of_ok hc, runs_except_pure] at h
      exact h.1

theorem asks_of_automationFees {action : AutomationAction} {executions : UInt32}
    {r : Except AdapterError UInt128} (h : Runs (a.automationFees action executions).run t r) :
    ∀ x ∈ t, a.Asks x := by
  unfold automationFees at h
  cases hl : a.link with
  | none =>
    rw [requireLink_of_none hl, throw_bind, runs_throw] at h
    obtain ⟨rfl, -⟩ := h
    exact List.forall_mem_nil _
  | some link =>
    rw [requireLink_of_some hl, pure_bind, runs_send_bind] at h
    rcases h with ⟨e, rfl, rfl⟩ | ⟨answer, t', rfl, h⟩
    · exact List.forall_mem_singleton.mpr ⟨link, hl, rfl, rfl⟩
    · have quiet : t' = [] := by
        cases hm : amountOfJson? answer with
        | none =>
          simp only [hm, runs_throw] at h
          exact h.1
        | some fee =>
          simp only [hm, runs_except_pure] at h
          exact h.1
      rw [quiet]
      exact List.forall_mem_singleton.mpr ⟨link, hl, rfl, rfl⟩

theorem asks_of_transfer {destination asset : Location} {beneficiary : AccountId}
    {amount : UInt128} {signer : Signer} {r : Except AdapterError Receipt}
    (h : Runs (a.transfer destination beneficiary asset amount signer).run t r) :
    ∀ x ∈ t, a.Asks x := by
  cases runs_transfer.mp h with
  | homeless => exact List.forall_mem_nil _
  | full => exact List.forall_mem_nil _
  | submitting _ _ hs => exact hs.asks

/-- Whatever the adapter is used for, it asks over the link that it has. -/
theorem asks_of_use (u : Use) {r : Except AdapterError u.Result}
    (h : Runs (u.operation a).run t r) : ∀ x ∈ t, a.Asks x := by
  cases u with
  | encodeCall call =>
    rw [nil_of_encodeCall h]
    exact List.forall_mem_nil _
  | xcmWeight call sender instructions => exact asks_of_asked_one (runs_xcmWeight.mp h).asked
  | weightToFee weight asset =>
    obtain ⟨fees, -, ha⟩ := (runs_weightToFee.mp h).asked
    exact ha.asks
  | transfer destination beneficiary asset amount signer => exact asks_of_transfer h
  | submit call signer => exact (runs_submit.mp h).asks
  | cancelTask taskId signer => exact (runs_submit.mp h).asks
  | automationFees action executions => exact asks_of_automationFees h

/-! ### Uses without a link -/

theorem submit_of_unlinked {call : Call} {signer : Signer} (hl : a.link = none) :
    a.submit call signer = throw (.notInitialized a.key) := by
  unfold submit
  rw [requireLink_of_none hl, throw_bind]

theorem foreignRate_of_unlinked {asset own : Location} (hl : a.link = none) :
    a.foreignRate asset own = throw (.notInitialized a.key) := by
  unfold foreignRate readStorage
  rw [requireLink_of_none hl]
  rfl

theorem weightToFee_of_unlinked {weight : Weight} {asset : Location} (hl : a.link = none) :
    a.weightToFee weight asset = throw ((Use.weightToFee weight asset).refusal a.chain) := by
  unfold weightToFee
  cases hn : a.chain.isNativeLocation asset with
  | true =>
    have refusal : (Use.weightToFee weight asset).refusal a.chain = .notInitialized a.key :=
      if_neg fun h => absurd (hn.symm.trans h.1) (by decide)
    rw [refusal, if_pos rfl]
    unfold nativeFee
    rw [requireLink_of_none hl]
    rfl
  | false =>
    rw [if_neg Bool.false_ne_true]
    cases hp : a.chain.paraId with
    | none =>
      have refusal : (Use.weightToFee weight asset).refusal a.chain =
          .configuration ("chain " ++ a.key ++ " has no para id") := if_pos ⟨hn, hp⟩
      rw [refusal, requireParaId_of_none hp, liftError_bind]
    | some paraId =>
      have refusal : (Use.weightToFee weight asset).refusal a.chain = .notInitialized a.key :=
        if_neg fun h => Option.some_ne_none _ (hp.symm.trans h.2)
      rw [refusal, requireParaId_of_some hp, liftOk_bind, foreignRate_of_unlinked hl, throw_bind]

theorem transfer_of_unlinked {destination asset : Location} {beneficiary : AccountId}
    {amount : UInt128} {signer : Signer} (hl : a.link = none) :
    a.transfer destination beneficiary asset amount signer =
      throw ((Use.transfer destination beneficiary asset amount signer).refusal a.chain) := by
  cases hp : a.chain.paraId with
  | none =>
    have refusal : (Use.transfer destination beneficiary asset amount signer).refusal a.chain =
        .configuration ("chain " ++ a.key ++ " has no para id") := if_pos hp
    rw [refusal, transfer_of_homeless hp]
  | some paraId =>
    have placed : ¬ a.chain.paraId = none := fun h => Option.some_ne_none _ (hp.symm.trans h)
    by_cases hf : Transfer.Full a.chain.family destination
    · have refusal : (Use.transfer destination beneficiary asset amount signer).refusal a.chain =
          .configuration ("invalid destination: " ++
            (TooManyJunctions.mk (maxJunctions + 1)).message) := (if_neg placed).trans (if_pos hf)
      rw [refusal, transfer_of_full hp hf]
    · have refusal : (Use.transfer destination beneficiary asset amount signer).refusal a.chain =
          .notInitialized a.key := (if_neg placed).trans (if_neg hf)
      obtain ⟨call, hc, -⟩ := Transfer.exists_call destination (asset.relativeTo paraId)
        beneficiary amount hf
      rw [refusal, transfer_of_call hp hc, submit_of_unlinked hl]

theorem operation_of_unlinked (u : Use) (hl : a.link = none) :
    u.operation a = throw (u.refusal a.chain) := by
  cases u with
  | encodeCall call =>
    change a.encodeCall call = _
    unfold encodeCall
    rw [requireLink_of_none hl]
    rfl
  | xcmWeight call sender instructions =>
    change a.xcmWeight call sender instructions = _
    unfold xcmWeight
    rw [requireLink_of_none hl]
    rfl
  | weightToFee weight asset => exact weightToFee_of_unlinked hl
  | transfer destination beneficiary asset amount signer => exact transfer_of_unlinked hl
  | submit call signer => exact submit_of_unlinked hl
  | cancelTask taskId signer => exact submit_of_unlinked hl
  | automationFees action executions =>
    change a.automationFees action executions = _
    unfold automationFees
    rw [requireLink_of_none hl]
    rfl

/-! ### Changes -/

/-- What a step may do to an adapter, with what is asked for it. -/
inductive Change (a : Adapter) : Transcript → Adapter → Prop where
  | kept {t : Transcript} (h : ∀ x ∈ t, a.Asks x) : Change a t a
  | unreached {e : NodeError} (hl : a.link = none) : Change a [⟨.connect a.chain, .error e⟩] a
  | opened {link : Link} (hl : a.link = none) :
      Change a [⟨.connect a.chain, .ok link⟩] { a with link := some link }
  | released {link : Link} {reply : Except NodeError Unit} (hl : a.link = some link) :
      Change a [⟨.send link .disconnect, reply⟩] { a with link := none }

theorem Connecting.change {r : Except AdapterError Unit} (h : Connecting a t r a') :
    Change a t a' := by
  cases h with
  | already => exact .kept (List.forall_mem_nil _)
  | unreachable hl => exact .unreached hl
  | connected hl => exact .opened hl

theorem Disconnecting.change {r : Except AdapterError Unit} (h : Disconnecting a t r a') :
    Change a t a' := by
  cases h with
  | unlinked => exact .kept (List.forall_mem_nil _)
  | released hl => exact .released hl

theorem runs_isReady {r : Bool} :
    Runs (Step.isReady.perform a) t (r, a') ↔ t = [] ∧ r = a.isReady ∧ a' = a := by
  refine Iff.trans runs_pure ⟨?_, ?_⟩
  · rintro ⟨rfl, h⟩
    cases h
    exact ⟨rfl, rfl, rfl⟩
  · rintro ⟨rfl, rfl, rfl⟩
    exact ⟨rfl, rfl⟩

theorem runs_use {u : Use} {r : Except AdapterError u.Result} :
    Runs ((Step.use u).perform a) t (r, a') ↔ Runs (u.operation a).run t r ∧ a' = a := by
  refine Iff.trans runs_bind ⟨?_, ?_⟩
  · rintro ⟨t₁, t₂, r', h, hp, rfl⟩
    obtain ⟨rfl, hp⟩ := runs_pure.mp hp
    cases hp
    rw [List.append_nil]
    exact ⟨h, rfl⟩
  · rintro ⟨h, rfl⟩
    exact ⟨t, [], r, h, runs_pure.mpr ⟨rfl, rfl⟩, (List.append_nil t).symm⟩

theorem change_of_step {step : Step} {r : step.Result} (h : Runs (step.perform a) t (r, a')) :
    Change a t a' := by
  cases step with
  | connect => exact (runs_connect.mp h).change
  | disconnect => exact (runs_disconnect.mp h).change
  | isReady =>
    obtain ⟨rfl, -, rfl⟩ := runs_isReady.mp h
    exact .kept (List.forall_mem_nil _)
  | use u =>
    obtain ⟨h, rfl⟩ := runs_use.mp h
    exact .kept (asks_of_use u h)

theorem Change.chain (h : Change a t a') : a'.chain = a.chain := by
  cases h <;> rfl

/-- Before a request the adapter has the link that it goes over. -/
theorem Change.before {pre post : Transcript} {link : Link} {request : Request}
    {reply : Except NodeError request.Answer}
    (h : Change a (pre ++ ⟨.send link request, reply⟩ :: post) a') :
    a.link = some link ∧ ∀ x ∈ pre, a.Asks x := by
  generalize ht : pre ++ ⟨.send link request, reply⟩ :: post = t at h
  cases h with
  | kept h =>
    subst ht
    obtain ⟨held, hl, rfl, -⟩ := h ⟨.send link request, reply⟩ (by simp)
    exact ⟨hl, fun x hx => h x (List.mem_append_left _ hx)⟩
  | unreached =>
    cases pre with
    | nil => cases ht
    | cons x pre => simp at ht
  | opened =>
    cases pre with
    | nil => cases ht
    | cons x pre => simp at ht
  | released hl =>
    cases pre with
    | nil =>
      cases ht
      exact ⟨hl, List.forall_mem_nil _⟩
    | cons x pre => simp at ht

theorem Life.chain_eq {chain : Chain} {turns : List Turn} (h : Life chain turns a) :
    a.chain = chain := by
  induction h with
  | new => rfl
  | snoc turn _ hr ih => exact (change_of_step hr).chain.trans ih

end Adapter

end XcmTasks

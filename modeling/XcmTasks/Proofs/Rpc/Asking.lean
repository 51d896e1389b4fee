import XcmTasks.Proofs.Dialogue
import XcmTasks.Rpc.Connection

/-!
What operations on a connection post. Most of them post one message and read the reply, so how one
message may go is said once. Nothing is posted over a closed connection.
-/

namespace XcmTasks.Rpc

open Dialogue hiding bind_assoc

abbrev Posts := List (Exchange Post fun _ => Reply)

variable {α β : Type} {c c' : Connection} {t : Posts}

/-- Over connection `c` the operation posts `t` and comes to `r`, and it leaves the connection as
`c'`. -/
def Goes (x : OnConnection α) (c : Connection) (t : Posts) (r : Except NodeError α)
    (c' : Connection) : Prop :=
  Runs (x.run.run c) t (r, c')

/-! ### Parts of operations -/

section
variable {r : Except NodeError α}

theorem goes_pure {a : α} : Goes (pure a) c t r c' ↔ t = [] ∧ r = .ok a ∧ c' = c := by
  rw [← Prod.mk.injEq]
  exact runs_pure

theorem goes_throw {e : NodeError} :
    Goes (throw e : OnConnection α) c t r c' ↔ t = [] ∧ r = .error e ∧ c' = c := by
  rw [← Prod.mk.injEq]
  exact runs_pure

theorem goes_liftExcept {x : Except NodeError α} :
    Goes (liftExcept x) c t r c' ↔ t = [] ∧ r = x ∧ c' = c := by
  cases x with
  | error e => exact goes_throw
  | ok a => exact goes_pure

/-- A failure ends the operation, and the second part goes on from the value of the first and the
connection as that left it. -/
theorem goes_bind {x : OnConnection β} {f : β → OnConnection α} :
    Goes (x >>= f) c t r c' ↔
      (∃ e, Goes x c t (.error e) c' ∧ r = .error e) ∨
        ∃ t₁ t₂ b c₁, Goes x c t₁ (.ok b) c₁ ∧ Goes (f b) c₁ t₂ r c' ∧ t = t₁ ++ t₂ := by
  have unfolded : (x >>= f).run.run c = x.run.run c >>= fun p =>
      match p with
      | (.ok b, c₁) => (f b).run.run c₁
      | (.error e, c₁) => pure (.error e, c₁) := by
    rw [ExceptT.run_bind, StateT.run_bind]
    refine bind_congr fun p => ?_
    obtain ⟨e | b, c₁⟩ := p <;> rfl
  unfold Goes
  rw [unfolded, runs_bind]
  refine ⟨?_, ?_⟩
  · rintro ⟨t₁, t₂, ⟨e | b, c₁⟩, hx, hf, rfl⟩
    · obtain ⟨rfl, h⟩ := runs_pure.mp hf
      cases h
      rw [List.append_nil]
      exact .inl ⟨e, hx, rfl⟩
    · exact .inr ⟨t₁, t₂, b, c₁, hx, hf, rfl⟩
  · rintro (⟨e, hx, rfl⟩ | ⟨t₁, t₂, b, c₁, hx, hf, rfl⟩)
    · exact ⟨t, [], (.error e, c'), hx, runs_pure.mpr ⟨rfl, rfl⟩, (List.append_nil t).symm⟩
    · exact ⟨t₁, t₂, (.ok b, c₁), hx, hf, rfl⟩

theorem goes_bind_read {x : OnConnection β} {f : β → OnConnection α}
    {read : β → Except NodeError α} (hf : ∀ b, f b = liftExcept (read b)) :
    Goes (x >>= f) c t r c' ↔ ∃ r', Goes x c t r' c' ∧ r = r' >>= read := by
  rw [goes_bind]
  simp only [hf, goes_liftExcept]
  refine ⟨?_, ?_⟩
  · rintro (⟨e, h, rfl⟩ | ⟨t, _, b, _, h, ⟨rfl, rfl, rfl⟩, rfl⟩)
    · exact ⟨.error e, h, rfl⟩
    · rw [List.append_nil]
      exact ⟨.ok b, h, rfl⟩
  · rintro ⟨e | b, h, rfl⟩
    · exact .inl ⟨e, h, rfl⟩
    · exact .inr ⟨t, [], b, c', h, ⟨rfl, rfl, rfl⟩, (List.append_nil t).symm⟩

theorem goes_liftExcept_bind {x : Except NodeError β} {f : β → OnConnection α} :
    Goes (liftExcept x >>= f) c t r c' ↔
      (∃ e, x = .error e ∧ t = [] ∧ r = .error e ∧ c' = c) ∨
        ∃ b, x = .ok b ∧ Goes (f b) c t r c' := by
  cases x with
  | error e =>
    refine goes_throw.trans ⟨?_, ?_⟩
    · intro h
      exact .inl ⟨e, rfl, h⟩
    · rintro (⟨_, he, h⟩ | ⟨_, hb, -⟩)
      · cases he
        exact h
      · cases hb
  | ok b =>
    refine ⟨fun h => .inr ⟨b, rfl, h⟩, ?_⟩
    rintro (⟨_, he, -⟩ | ⟨_, hb, h⟩)
    · cases he
    · cases hb
      exact h

theorem goes_get_bind {f : Connection → OnConnection α} :
    Goes (get >>= f) c t r c' ↔ Goes (f c) c t r c' := Iff.rfl

theorem goes_set_bind {s : Connection} {f : PUnit → OnConnection α} :
    Goes (set s >>= f) c t r c' ↔ Goes (f ⟨⟩) s t r c' := Iff.rfl

theorem goes_modify_bind {g : Connection → Connection} {f : PUnit → OnConnection α} :
    Goes (modify g >>= f) c t r c' ↔ Goes (f ⟨⟩) (g c) t r c' := Iff.rfl

theorem goes_post_bind {p : Post} {f : Reply → OnConnection α} :
    Goes (post p >>= f) c t r c' ↔
      ∃ reply t', t = ⟨p, reply⟩ :: t' ∧ Goes (f reply) c t' r c' := by
  refine ⟨?_, ?_⟩
  · intro h
    cases h with
    | ask _ reply rest => exact ⟨reply, _, rfl, rest⟩
  · rintro ⟨reply, t', rfl, h⟩
    exact Runs.ask (A := fun _ => Reply) p reply h

end

/-! ### One message -/

def Connection.postOf (c : Connection) (method : String) (params : Json) : Post :=
  ⟨c.client, c.url, ⟨c.nextId, method, params⟩⟩

def Connection.counted (c : Connection) : Connection := { c with nextId := c.nextId + 1 }

/-- How one message may go whose result is read as `read` tells. -/
inductive Asks (c : Connection) (method : String) (params : Json)
    (read : Json → Except NodeError α) : Posts → Except NodeError α → Connection → Prop where
  | closed (hc : c.closed = true) : Asks c method params read [] (.error .connectionClosed) c
  | replied {reply : Reply} {r : Except NodeError α} (hc : c.closed = false)
      (hr : r = reply.result c.url.text >>= read) :
      Asks c method params read [⟨c.postOf method params, reply⟩] r c.counted

section
variable {method : String} {params : Json} {r : Except NodeError α}

theorem goes_request {r : Except NodeError Json} :
    Goes (request method params) c t r c' ↔ Asks c method params .ok t r c' := by
  unfold request
  rw [goes_get_bind]
  by_cases hc : c.closed = true
  · rw [if_pos hc]
    refine goes_throw.trans ⟨?_, ?_⟩
    · rintro ⟨rfl, rfl, rfl⟩
      exact .closed hc
    · intro h
      cases h with
      | closed => exact ⟨rfl, rfl, rfl⟩
      | replied hc' => cases hc.symm.trans hc'
  · rw [if_neg hc]
    refine (goes_set_bind.trans goes_post_bind).trans ⟨?_, ?_⟩
    · rintro ⟨reply, t', rfl, h⟩
      obtain ⟨rfl, rfl, rfl⟩ := goes_liftExcept.mp h
      exact .replied (eq_false_of_ne_true hc) (bind_pure _).symm
    · intro h
      cases h with
      | closed hc' => exact absurd hc' hc
      | replied _ hr =>
        rw [hr]
        exact ⟨_, [], rfl, goes_liftExcept.mpr ⟨rfl, bind_pure _, rfl⟩⟩

theorem asks_bind {read : Json → Except NodeError β} {read' : β → Except NodeError α} :
    Asks c method params (fun answer => read answer >>= read') t r c' ↔
      ∃ r', Asks c method params read t r' c' ∧ r = r' >>= read' := by
  refine ⟨?_, ?_⟩
  · intro h
    cases h with
    | closed hc => exact ⟨_, .closed hc, rfl⟩
    | replied hc hr =>
      rw [← bind_assoc] at hr
      exact ⟨_, .replied hc rfl, hr⟩
  · rintro ⟨r', h, rfl⟩
    cases h with
    | closed hc => exact .closed hc
    | replied hc hr =>
      rw [hr, bind_assoc]
      exact .replied hc rfl

theorem goes_asks_bind {x : OnConnection β} {read : Json → Except NodeError β}
    (hx : ∀ {t r c'}, Goes x c t r c' ↔ Asks c method params read t r c')
    {f : β → OnConnection α} {read' : β → Except NodeError α}
    (hf : ∀ b, f b = liftExcept (read' b)) :
    Goes (x >>= f) c t r c' ↔
      Asks c method params (fun answer => read answer >>= read') t r c' := by
  rw [goes_bind_read hf, asks_bind]
  simp only [hx]

theorem goes_request_bind {f : Json → OnConnection α} {read : Json → Except NodeError α}
    (hf : ∀ answer, f answer = liftExcept (read answer)) :
    Goes (request method params >>= f) c t r c' ↔ Asks c method params read t r c' :=
  goes_asks_bind goes_request hf

theorem goes_request_then {read : Json → Except NodeError β} {f : β → OnConnection α} :
    Goes (request method params >>= fun answer => liftExcept (read answer) >>= f) c t r c' ↔
      (∃ e, Asks c method params read t (.error e) c' ∧ r = .error e) ∨
        ∃ t₁ t₂ b c₁, Asks c method params read t₁ (.ok b) c₁ ∧ Goes (f b) c₁ t₂ r c' ∧
          t = t₁ ++ t₂ := by
  have asked {t r c'} : Goes (request method params >>= fun answer => liftExcept (read answer))
      c t r c' ↔ Asks c method params read t r c' := goes_request_bind fun _ => rfl
  rw [← bind_assoc, goes_bind]
  simp only [asked]

section
variable {read : Json → Except NodeError α} (h : Asks c method params read t r c')
include h

theorem Asks.eq_count : c' = { c with nextId := c.nextId + UInt64.ofNat t.length } := by
  cases h with
  | closed => exact congrArg (fun id => { c with nextId := id }) (UInt64.add_zero c.nextId).symm
  | replied => rfl

theorem Asks.genesisHash : c'.genesisHash = c.genesisHash := by
  rw [h.eq_count]

theorem Asks.nextNonce (account : AccountId) : c'.nextNonce account = c.nextNonce account := by
  rw [h.eq_count]
  rfl

end

end

/-! ### Operations -/

theorem goes_stateCall_bind {function : String} {data : Bytes} {f : Json → OnConnection α}
    {read : Json → Except NodeError α} (hf : ∀ answer, f answer = liftExcept (read answer))
    {r : Except NodeError α} :
    Goes (stateCall function data >>= f) c t r c' ↔
      Asks c "state_call" (.list [.text function, .text (Hex.encode data)]) read t r c' :=
  goes_request_bind hf

theorem goes_weightToFee {weight : Weight} {r : Except NodeError UInt128} :
    Goes (weightToFee weight) c t r c' ↔
      Asks c "state_call"
        (.list [.text "TransactionPaymentApi_query_weight_to_fee",
          .text (Hex.encode (encode weight))])
        (Answer.binary UInt128 "weight fee") t r c' :=
  goes_stateCall_bind fun _ => rfl

def Answer.paymentInfo (answer : Json) : Except NodeError PaymentInfo := do
  let (weight, dispatchClass, partialFee) ←
    Answer.binary (Weight × UInt8 × UInt128) "RuntimeDispatchInfo" answer
  return ⟨weight, dispatchClass, partialFee⟩

theorem goes_paymentInfo {call : Bytes} {r : Except NodeError PaymentInfo} :
    Goes (paymentInfo call) c t r c' ↔
      Asks c "state_call"
        (.list [.text "TransactionPaymentCallApi_query_call_info",
          .text (Hex.encode (call ++ encode (UInt32.ofNat call.length)))])
        Answer.paymentInfo t r c' := by
  refine goes_stateCall_bind fun answer => ?_
  unfold Answer.paymentInfo
  cases Answer.binary (Weight × UInt8 × UInt128) "RuntimeDispatchInfo" answer <;> rfl

theorem goes_storage {key : StorageKey} {r : Except NodeError (Option Bytes)} :
    Goes (storage key) c t r c' ↔
      Asks c "state_getStorage" (.list [.text key.text]) Answer.storageValue t r c' :=
  goes_request_bind fun _ => rfl

/-- The nonce in the entry of an account, zero without an entry. -/
def nonceIn : Option Bytes → Except NodeError UInt32
  | none => .ok 0
  | some bytes =>
    match decodeFront UInt32 bytes with
    | some nonce => .ok nonce
    | none => .error (.undecodable "AccountInfo" Decoder.failureText)

theorem goes_chainNonce {account : AccountId} {r : Except NodeError UInt32} :
    Goes (chainNonce account) c t r c' ↔
      Asks c "state_getStorage" (.list [.text (accountKey account).text])
        (fun answer => Answer.storageValue answer >>= nonceIn) t r c' := by
  refine goes_asks_bind goes_storage fun entry => ?_
  cases entry with
  | none => rfl
  | some bytes =>
    cases hd : decodeFront UInt32 bytes with
    | none =>
      simp only [nonceIn, hd]
      rfl
    | some nonce =>
      simp only [nonceIn, hd]
      rfl

theorem goes_disconnect {r : Except NodeError Unit} :
    Goes disconnect c t r c' ↔ t = [] ∧ r = .ok () ∧ c' = { c with closed := true } := by
  rw [← Prod.mk.injEq]
  exact runs_pure

/-- The connection that the genesis hash is asked over. -/
def Connection.opening (client : Client) (url : WebUrl) (chain : Chain) : Connection :=
  ⟨client, url, chain.callIndices, .zero, 1, [], false⟩

theorem runs_connect {client : Client} {url : WebUrl} {chain : Chain}
    {r : Except NodeError Connection} :
    Runs (Connection.connect client url chain) t r ↔
      ∃ hash c', Asks (.opening client url chain) "chain_getBlockHash" (.list [.ofNat 0])
        Answer.genesisHash t hash c' ∧ r = hash.map fun hash => { c' with genesisHash := hash } := by
  have read {answer : Except NodeError Json} {c' : Connection} :
      (do return { c' with genesisHash := ← Answer.genesisHash (← answer) }) =
        (answer >>= Answer.genesisHash).map fun hash => { c' with genesisHash := hash } := by
    cases answer with
    | error e => rfl
    | ok json =>
      change (do return { c' with genesisHash := ← Answer.genesisHash json }) =
        (Answer.genesisHash json).map fun hash => { c' with genesisHash := hash }
      cases Answer.genesisHash json <;> rfl
  refine Iff.trans runs_bind ⟨?_, ?_⟩
  · rintro ⟨t₁, t₂, ⟨answer, c'⟩, hq, hp, rfl⟩
    obtain ⟨rfl, rfl⟩ := runs_pure.mp hp
    rw [List.append_nil]
    exact ⟨_, c', asks_bind.mpr ⟨answer, goes_request.mp hq, rfl⟩, read⟩
  · rintro ⟨hash, c', ha, rfl⟩
    -- the operation asks for the answer as it is and reads the hash afterwards
    have twice : Asks (.opening client url chain) "chain_getBlockHash" (.list [.ofNat 0])
        (fun answer => (.ok answer : Except NodeError Json) >>= Answer.genesisHash) t hash c' := ha
    obtain ⟨answer, hq, rfl⟩ := asks_bind.mp twice
    exact ⟨t, [], (answer, c'), goes_request.mpr hq, runs_pure.mpr ⟨rfl, read.symm⟩,
      (List.append_nil t).symm⟩

end XcmTasks.Rpc

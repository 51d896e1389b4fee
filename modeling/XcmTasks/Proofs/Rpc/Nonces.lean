import XcmTasks.Chain.Local
import XcmTasks.Proofs.Results
import XcmTasks.Proofs.Rpc.Asking

/-!
The nonces under which accounts submit over one connection. What an account submitted may not be on
the chain yet, so the chain's word alone would let it use a nonce twice. The connection remembers
for each account the nonce after its last success, and for that only its own successes count.
-/

namespace XcmTasks.Rpc

open Dialogue hiding bind_assoc

/-! ### Submitting -/

abbrev AsksNonce (c : Connection) (account : AccountId) :
    Posts → Except NodeError UInt32 → Connection → Prop :=
  Asks c "state_getStorage" (.list [.text (accountKey account).text])
    fun answer => Answer.storageValue answer >>= nonceIn

abbrev AsksVersion (c : Connection) :
    Posts → Except NodeError Answer.RuntimeVersion → Connection → Prop :=
  Asks c "state_getRuntimeVersion" (.list []) Answer.runtimeVersion

abbrev AsksHash (c : Connection) (extrinsic : Bytes) :
    Posts → Except NodeError String → Connection → Prop :=
  Asks c "author_submitExtrinsic" (.list [.text (Hex.encode extrinsic)]) Answer.extrinsicHash

/-- What an account is given to sign when the chain has told its nonce there and the version. -/
def Connection.payload (c : Connection) (call : Bytes) (account : AccountId) (onChain : UInt32)
    (version : Answer.RuntimeVersion) : SigningPayload :=
  ⟨account, call, max onChain (c.nextNonce account), version.specVersion,
    version.transactionVersion, c.genesisHash⟩

def Connection.remember (c : Connection) (account : AccountId) (nonce : UInt32) : Connection :=
  { c with nonces := (account, nonceAfter nonce) :: c.nonces }

/-- How submitting a call may go, with what the signer is given if it comes to that. -/
inductive Submitting (c : Connection) (call : Bytes) (signer : Signer) :
    Option SigningPayload → Posts → Except NodeError Receipt → Connection → Prop where
  | unread {t₁ : Posts} {e : NodeError} {c₁ : Connection}
      (hn : AsksNonce c signer.account t₁ (.error e) c₁) :
      Submitting c call signer none t₁ (.error e) c₁
  | unversioned {t₁ t₂ : Posts} {onChain : UInt32} {e : NodeError} {c₁ c₂ : Connection}
      (hn : AsksNonce c signer.account t₁ (.ok onChain) c₁)
      (hv : AsksVersion c₁ t₂ (.error e) c₂) :
      Submitting c call signer none (t₁ ++ t₂) (.error e) c₂
  | unsigned {t₁ t₂ : Posts} {onChain : UInt32} {version : Answer.RuntimeVersion} {e : NodeError}
      {c₁ c₂ : Connection}
      (hn : AsksNonce c signer.account t₁ (.ok onChain) c₁)
      (hv : AsksVersion c₁ t₂ (.ok version) c₂)
      (hs : signer.sign (c.payload call signer.account onChain version) = .error e) :
      Submitting c call signer (some (c.payload call signer.account onChain version)) (t₁ ++ t₂)
        (.error e) c₂
  | unsubmitted {t₁ t₂ t₃ : Posts} {onChain : UInt32} {version : Answer.RuntimeVersion}
      {extrinsic : Bytes} {e : NodeError} {c₁ c₂ c₃ : Connection}
      (hn : AsksNonce c signer.account t₁ (.ok onChain) c₁)
      (hv : AsksVersion c₁ t₂ (.ok version) c₂)
      (hs : signer.sign (c.payload call signer.account onChain version) = .ok extrinsic)
      (hh : AsksHash c₂ extrinsic t₃ (.error e) c₃) :
      Submitting c call signer (some (c.payload call signer.account onChain version))
        (t₁ ++ (t₂ ++ t₃)) (.error e) c₃
  | submitted {t₁ t₂ t₃ : Posts} {onChain : UInt32} {version : Answer.RuntimeVersion}
      {extrinsic : Bytes} {hash : String} {c₁ c₂ c₃ : Connection}
      (hn : AsksNonce c signer.account t₁ (.ok onChain) c₁)
      (hv : AsksVersion c₁ t₂ (.ok version) c₂)
      (hs : signer.sign (c.payload call signer.account onChain version) = .ok extrinsic)
      (hh : AsksHash c₂ extrinsic t₃ (.ok hash) c₃) :
      Submitting c call signer (some (c.payload call signer.account onChain version))
        (t₁ ++ (t₂ ++ t₃)) (.ok (.submitted hash))
        (c₃.remember signer.account (c.payload call signer.account onChain version).nonce)

section
variable {c c' : Connection} {call : Bytes} {signer : Signer} {t : Posts}

theorem goes_submit {r : Except NodeError Receipt} :
    Goes (submit call signer) c t r c' ↔ ∃ handed, Submitting c call signer handed t r c' := by
  unfold submit
  rw [goes_bind]
  simp only [goes_chainNonce, goes_get_bind, goes_request_then, goes_liftExcept_bind,
    goes_modify_bind, goes_pure]
  refine ⟨?_, ?_⟩
  · rintro (⟨e, hn, rfl⟩ | ⟨t₁, t₂, onChain, c₁, hn, ⟨e, hv, rfl⟩ |
      ⟨t₂, t₃, version, c₂, hv, h, rfl⟩, rfl⟩)
    · exact ⟨none, .unread hn⟩
    · exact ⟨none, .unversioned hn hv⟩
    · rw [hn.nextNonce, hv.genesisHash, hn.genesisHash] at h
      rcases h with ⟨e, hs, rfl, rfl, rfl⟩ | ⟨extrinsic, hs, ⟨e, hh, rfl⟩ |
        ⟨t₃, t₄, hash, c₃, hh, ⟨rfl, rfl, rfl⟩, rfl⟩⟩
      · rw [List.append_nil]
        exact ⟨_, .unsigned hn hv hs⟩
      · exact ⟨_, .unsubmitted hn hv hs hh⟩
      · rw [List.append_nil]
        exact ⟨_, .submitted hn hv hs hh⟩
  · rintro ⟨handed, h⟩
    cases h with
    | unread hn => exact .inl ⟨_, hn, rfl⟩
    | unversioned hn hv => exact .inr ⟨_, _, _, _, hn, .inl ⟨_, hv, rfl⟩, rfl⟩
    | unsigned hn hv hs =>
      refine .inr ⟨_, _, _, _, hn, .inr ⟨_, [], _, _, hv, ?_, rfl⟩, by simp⟩
      rw [hn.nextNonce, hv.genesisHash, hn.genesisHash]
      exact .inl ⟨_, hs, rfl, rfl, rfl⟩
    | unsubmitted hn hv hs hh =>
      refine .inr ⟨_, _, _, _, hn, .inr ⟨_, _, _, _, hv, ?_, rfl⟩, rfl⟩
      rw [hn.nextNonce, hv.genesisHash, hn.genesisHash]
      exact .inr ⟨_, hs, .inl ⟨_, hh, rfl⟩⟩
    | submitted hn hv hs hh =>
      refine .inr ⟨_, _, _, _, hn, .inr ⟨_, _, _, _, hv, ?_, rfl⟩, rfl⟩
      rw [hn.nextNonce, hv.genesisHash, hn.genesisHash]
      exact .inr ⟨_, hs, .inr ⟨_, [], _, _, hh, ⟨rfl, rfl, rfl⟩, by simp⟩⟩

end

/-! ### Sessions -/

/-- Something that was done over a connection. -/
structure Deed where
  request : Request
  /-- What a signer was given for it, if it came to that. -/
  handed : Option SigningPayload
  posts : Posts
  answer : Except NodeError request.Answer

/-- What may be done over a connection, and how it leaves the connection. -/
inductive Does (c : Connection) : Deed → Connection → Prop where
  | submit {call : Bytes} {signer : Signer} {handed : Option SigningPayload} {t : Posts}
      {r : Except NodeError Receipt} {c' : Connection}
      (h : Submitting c call signer handed t r c') : Does c ⟨.submit call signer, handed, t, r⟩ c'
  | ask {request : Request} {t : Posts} {r : Except NodeError request.Answer} {c' : Connection}
      (hr : ∀ call signer, request ≠ .submit call signer) (h : Goes (perform request) c t r c') :
      Does c ⟨request, none, t, r⟩ c'

/-- A connection that was opened with these messages, and over which these things were done since,
one after another. -/
inductive Session (opening : Posts) : List Deed → Connection → Prop where
  | opened {client : Client} {url : WebUrl} {chain : Chain} {c : Connection}
      (h : Runs (Connection.connect client url chain) opening (.ok c)) : Session opening [] c
  | done {deeds : List Deed} {deed : Deed} {c c' : Connection} (h : Session opening deeds c)
      (hd : Does c deed c') : Session opening (deeds ++ [deed]) c'

def Deed.accepted? (account : AccountId) (deed : Deed) : Option UInt32 :=
  match deed.handed, deed.answer with
  | some payload, .ok _ => if payload.signer = account then some payload.nonce else none
  | _, _ => none

def acceptedNonces (account : AccountId) (deeds : List Deed) : List UInt32 :=
  deeds.filterMap (Deed.accepted? account)

def nextAfter (nonces : List UInt32) : UInt32 := (nonces.getLast?.map nonceAfter).getD 0

section
variable {opening : Posts} {deeds : List Deed} {deed : Deed} {c c' : Connection}

/-- What a request does over a connection is said in full by this. -/
theorem goes_perform {request : Request} {t : Posts} {r : Except NodeError request.Answer} :
    Goes (perform request) c t r c' ↔ ∃ handed, Does c ⟨request, handed, t, r⟩ c' := by
  refine ⟨?_, ?_⟩
  · intro h
    cases request with
    | submit call signer =>
      obtain ⟨handed, hs⟩ := goes_submit.mp h
      exact ⟨handed, .submit hs⟩
    | paymentInfo call sender => exact ⟨none, .ask nofun h⟩
    | weightToFee weight => exact ⟨none, .ask nofun h⟩
    | storage key => exact ⟨none, .ask nofun h⟩
    | rpc method params => exact ⟨none, .ask nofun h⟩
    | disconnect => exact ⟨none, .ask nofun h⟩
  · rintro ⟨handed, h⟩
    cases h with
    | submit hs => exact goes_submit.mpr ⟨handed, hs⟩
    | ask _ h => exact h

/-! ### What is remembered -/

theorem nextNonce_remember (account other : AccountId) (nonce : UInt32) :
    (c.remember account nonce).nextNonce other =
      if account = other then nonceAfter nonce else c.nextNonce other := by
  unfold Connection.remember Connection.nextNonce
  rw [List.lookup_cons]
  by_cases h : account = other
  · rw [if_pos h, h, beq_self_eq_true]
    rfl
  · rw [if_neg h, beq_eq_false_iff_ne.mpr (Ne.symm h)]

theorem nextAfter_concat (nonces : List UInt32) (nonce : UInt32) :
    nextAfter (nonces ++ [nonce]) = nonceAfter nonce := by
  unfold nextAfter
  rw [List.getLast?_concat]
  rfl

theorem nextNonce_of_goes {request : Request} {t : Posts} {r : Except NodeError request.Answer}
    (hr : ∀ call signer, request ≠ .submit call signer) (h : Goes (perform request) c t r c')
    (account : AccountId) : c'.nextNonce account = c.nextNonce account := by
  cases request with
  | submit call signer => exact absurd rfl (hr call signer)
  | paymentInfo call sender => exact (goes_paymentInfo.mp h).nextNonce account
  | weightToFee weight => exact (goes_weightToFee.mp h).nextNonce account
  | storage key => exact (goes_storage.mp h).nextNonce account
  | rpc method params => exact (goes_request.mp h).nextNonce account
  | disconnect =>
    obtain ⟨-, -, rfl⟩ := goes_disconnect.mp h
    rfl

theorem Does.nextNonce (h : Does c deed c') (account : AccountId) :
    c'.nextNonce account = ((deed.accepted? account).map nonceAfter).getD (c.nextNonce account) := by
  cases h with
  | ask hr h => exact nextNonce_of_goes hr h account
  | submit hs =>
    cases hs with
    | unread hn => exact hn.nextNonce account
    | unversioned hn hv => exact (hv.nextNonce account).trans (hn.nextNonce account)
    | unsigned hn hv => exact (hv.nextNonce account).trans (hn.nextNonce account)
    | unsubmitted hn hv _ hh =>
      exact (hh.nextNonce account).trans ((hv.nextNonce account).trans (hn.nextNonce account))
    | submitted hn hv _ hh =>
      rw [nextNonce_remember, hh.nextNonce, hv.nextNonce, hn.nextNonce]
      simp only [Deed.accepted?, Connection.payload]
      split <;> simp [*]

theorem acceptedNonces_concat (account : AccountId) :
    acceptedNonces account (deeds ++ [deed]) =
      acceptedNonces account deeds ++ (deed.accepted? account).toList := by
  unfold acceptedNonces
  rw [List.filterMap_append]
  cases h : deed.accepted? account with
  | none => rw [List.filterMap_cons_none h, List.filterMap_nil, Option.toList_none]
  | some nonce => rw [List.filterMap_cons_some h, List.filterMap_nil, Option.toList_some]

theorem nonces_of_connect {client : Client} {url : WebUrl} {chain : Chain}
    (h : Runs (Connection.connect client url chain) opening (.ok c)) : c.nonces = [] := by
  obtain ⟨hash, c', ha, hr⟩ := runs_connect.mp h
  cases hash with
  | error e => cases hr
  | ok hash =>
    cases hr
    rw [ha.eq_count]
    rfl

/-- The connection remembers for each account the nonce after its last success. -/
theorem Session.nextNonce (h : Session opening deeds c) (account : AccountId) :
    c.nextNonce account = nextAfter (acceptedNonces account deeds) := by
  induction h with
  | opened h =>
    unfold Connection.nextNonce
    rw [nonces_of_connect h]
    rfl
  | done _ hd ih =>
    rw [hd.nextNonce, ih, acceptedNonces_concat]
    cases Deed.accepted? account _ with
    | none => simp
    | some nonce => exact (nextAfter_concat _ _).symm

/-! ### What is handed to signers -/

/-- A message asks for the entry of an account, and the reply tells the nonce in it. -/
def TellsNonce (account : AccountId) (nonce : UInt32) (x : Exchange Post fun _ => Reply) : Prop :=
  x.1.message.method = "state_getStorage" ∧
    x.1.message.params = .list [.text (accountKey account).text] ∧
    (x.2.result x.1.url.text >>= fun answer => Answer.storageValue answer >>= nonceIn) = .ok nonce

theorem AsksNonce.told {account : AccountId} {t : Posts} {onChain : UInt32}
    (h : AsksNonce c account t (.ok onChain) c') : ∃ x, t = [x] ∧ TellsNonce account onChain x := by
  cases h with
  | replied _ hr => exact ⟨_, rfl, rfl, rfl, hr.symm⟩

theorem Submitting.handed {call : Bytes} {signer : Signer} {payload : SigningPayload} {t : Posts}
    {r : Except NodeError Receipt} (h : Submitting c call signer (some payload) t r c') :
    payload.signer = signer.account ∧ ∃ told rest onChain, t = told :: rest ∧
      TellsNonce signer.account onChain told ∧
      payload.nonce = max onChain (c.nextNonce signer.account) := by
  cases h with
  | unsigned hn =>
    obtain ⟨told, rfl, ht⟩ := AsksNonce.told hn
    exact ⟨rfl, told, _, _, rfl, ht, rfl⟩
  | unsubmitted hn =>
    obtain ⟨told, rfl, ht⟩ := AsksNonce.told hn
    exact ⟨rfl, told, _, _, rfl, ht, rfl⟩
  | submitted hn =>
    obtain ⟨told, rfl, ht⟩ := AsksNonce.told hn
    exact ⟨rfl, told, _, _, rfl, ht, rfl⟩

/-! ### Order of nonces -/

/-- The second nonce is above the first one, unless there is none above it. -/
def Above (n m : UInt32) : Prop := n.toNat + 1 < UInt32.size → n < m

theorem toNat_max (n m : UInt32) : (max n m).toNat = max n.toNat m.toNat := by
  change (if n ≤ m then m else n).toNat = _
  split
  case isTrue h =>
    rw [UInt32.le_iff_toNat_le] at h
    omega
  case isFalse h =>
    rw [UInt32.le_iff_toNat_le] at h
    omega

theorem Above.max {n m : UInt32} (h : Above n m) (told : UInt32) : Above n (Max.max told m) := by
  intro below
  have above := h below
  rw [UInt32.lt_iff_toNat_lt] at above ⊢
  rw [toNat_max]
  omega

theorem Deed.handed_of_accepted {account : AccountId} {nonce : UInt32}
    (h : deed.accepted? account = some nonce) :
    ∃ payload, deed.handed = some payload ∧ payload.signer = account ∧ payload.nonce = nonce := by
  unfold accepted? at h
  split at h
  case h_1 payload _ hh _ =>
    split at h
    case isTrue hs =>
      cases h
      exact ⟨payload, hh, hs, rfl⟩
    case isFalse => cases h
  case h_2 => cases h

theorem Does.accepted (hd : Does c deed c') {account : AccountId} {nonce : UInt32}
    (ha : deed.accepted? account = some nonce) :
    ∃ told, nonce = Max.max told (c.nextNonce account) := by
  obtain ⟨payload, hh, rfl, rfl⟩ := Deed.handed_of_accepted ha
  cases hd with
  | ask => cases hh
  | submit hs =>
    cases hh
    obtain ⟨hsigner, -, -, told, -, -, hn⟩ := hs.handed
    exact ⟨told, hsigner ▸ hn⟩

end

namespace Sample

def url : WebUrl := ⟨"http", [], .name ['n', 'o', 'd', 'e'], none, ['/'], none, none⟩

def signer : Signer := ⟨.id32 .zero, fun _ => .ok []⟩

/-- The chain keeps telling the nonce 5. -/
def entry : Reply := .response 200 "\x7b\"result\":\"0x05000000\"\x7d"

/-- A record may come as the list of its values. -/
def version : Reply := .response 200 "\x7b\"result\":[1,1]\x7d"

def hash : Reply := .response 200 "\x7b\"result\":\"0x01\"\x7d"

def genesis : Reply := .response 200 ("\x7b\"result\":\"0x" ++ "".pushn '0' 64 ++ "\"\x7d")

theorem entry_told :
    (entry.result url.text >>= fun answer => Answer.storageValue answer >>= nonceIn) = .ok 5 := by
  apply eq_ok_of_toOption
  decide +kernel

theorem version_told : (version.result url.text >>= Answer.runtimeVersion) = .ok ⟨1, 1⟩ := by
  apply eq_ok_of_toOption
  decide +kernel

theorem hash_told : (hash.result url.text >>= Answer.extrinsicHash) = .ok "0x01" := by
  apply eq_ok_of_toOption
  decide +kernel

theorem genesis_told : (genesis.result url.text >>= Answer.genesisHash) = .ok .zero := by
  apply eq_ok_of_toOption
  decide +kernel

variable {c : Connection}

def posts (c : Connection) : Posts :=
  [⟨c.postOf "state_getStorage" (.list [.text (accountKey signer.account).text]), entry⟩,
    ⟨c.counted.postOf "state_getRuntimeVersion" (.list []), version⟩,
    ⟨c.counted.counted.postOf "author_submitExtrinsic" (.list [.text (Hex.encode [])]), hash⟩]

def after (c : Connection) : Connection :=
  c.counted.counted.counted.remember signer.account (max 5 (c.nextNonce signer.account))

theorem does (hc : c.closed = false) (hu : c.url = url) :
    Does c ⟨.submit [] signer, some (c.payload [] signer.account 5 ⟨1, 1⟩), posts c,
      .ok (.submitted "0x01")⟩ (after c) := by
  have hn : AsksNonce c signer.account _ (.ok 5) c.counted :=
    .replied hc (hu ▸ entry_told).symm
  have hv : AsksVersion c.counted _ (.ok ⟨1, 1⟩) c.counted.counted :=
    .replied hc (hu ▸ version_told).symm
  have hh : AsksHash c.counted.counted [] _ (.ok "0x01") c.counted.counted.counted :=
    .replied hc (hu ▸ hash_told).symm
  exact .submit (.submitted hn hv rfl hh)

def connection : Connection :=
  { Connection.opening ⟨0⟩ url .turing with nextId := 2, genesisHash := .zero }

theorem connects : ∃ opening,
    Runs (Connection.connect ⟨0⟩ url .turing) opening (.ok connection) := by
  have asked : Asks (.opening ⟨0⟩ url .turing) "chain_getBlockHash" (.list [.ofNat 0])
      Answer.genesisHash _ (.ok .zero) _ := .replied rfl genesis_told.symm
  exact ⟨_, runs_connect.mpr ⟨_, _, asked, rfl⟩⟩

theorem opened : ∃ opening, Session opening [] connection := by
  obtain ⟨opening, connected⟩ := connects
  exact ⟨opening, .opened connected⟩

end Sample

end XcmTasks.Rpc

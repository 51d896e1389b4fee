import XcmTasks.Chain.Basic
import XcmTasks.Dialogue
import XcmTasks.Node.Error
import XcmTasks.Receipt
import XcmTasks.StorageKey

/-!
What is asked of the nodes of chains. A chain is connected to, then requests are sent over the link
that this opened. Calls are encoded by the link itself, which asks nobody.
-/

namespace XcmTasks

/-- What a call would cost, as a dry run tells. -/
structure PaymentInfo where
  weight : Weight
  dispatchClass : UInt8
  partialFee : UInt128
deriving DecidableEq, Repr

/-- What an account signs to submit a call. -/
structure SigningPayload where
  signer : AccountId
  call : Bytes
  nonce : UInt32
  specVersion : UInt32
  transactionVersion : UInt32
  genesisHash : FixedBytes 32
deriving DecidableEq, Repr

/-- Who signs for an account, and turns a payload into a complete extrinsic. -/
structure Signer where
  account : AccountId
  sign : SigningPayload → Except NodeError Bytes

inductive Request where
  | paymentInfo (call : Bytes) (sender : AccountId)
  | weightToFee (weight : Weight)
  | storage (key : StorageKey)
  | rpc (method : String) (params : Json)
  | submit (call : Bytes) (signer : Signer)
  | disconnect

def Request.Answer : Request → Type
  | .paymentInfo _ _ => PaymentInfo
  | .weightToFee _ => UInt128
  | .storage _ => Option Bytes
  | .rpc _ _ => Json
  | .submit _ _ => Receipt
  | .disconnect => Unit

/-- How the calls of a chain become bytes. -/
abbrev CallEncoding := Call → Except NodeError Bytes

/-- A connection that has been opened. -/
structure Link where
  id : Nat
  encodeCall : CallEncoding

inductive Action where
  | connect (chain : Chain)
  | send (link : Link) (request : Request)

def Action.Answer : Action → Type
  | .connect _ => Except NodeError Link
  | .send _ request => Except NodeError request.Answer

/-- A program that acts on nodes. -/
abbrev Talk := Dialogue Action Action.Answer

def Talk.connect (chain : Chain) : Talk (Except NodeError Link) :=
  Dialogue.question (Action.connect chain)

def Talk.send (link : Link) (request : Request) : Talk (Except NodeError request.Answer) :=
  Dialogue.question (Action.send link request)

/-- Nodes as those who are connected to them see them: how their state answers, and how answering
changes it. Attempts to connect are numbered from zero. -/
structure Network (σ : Type) where
  connect : Nat → Chain → σ → Except NodeError CallEncoding × σ
  send : Nat → (request : Request) → σ → Except NodeError request.Answer × σ

structure Session (σ : Type) where
  attempts : Nat
  nodes : σ

/-- A link has the number of the attempt that opened it, so no two links share one. -/
def Network.answer {σ : Type} (network : Network σ) :
    (action : Action) → Session σ → action.Answer × Session σ
  | .connect chain, s =>
    let (encoding, nodes) := network.connect s.attempts chain s.nodes
    (encoding.map (Link.mk s.attempts), ⟨s.attempts + 1, nodes⟩)
  | .send link request, s =>
    let (answer, nodes) := network.send link.id request s.nodes
    (answer, ⟨s.attempts, nodes⟩)

/-! ### JSON -/

instance : ToJson PaymentInfo where
  toJson info := .object
    [("weight", toJson info.weight), ("class", toJson info.dispatchClass),
     ("partial_fee", toJson info.partialFee)]

instance : ToJson Request where
  toJson
    | .paymentInfo call sender =>
      .list [.text "payment_info", hexJson call, toJson sender]
    | .weightToFee weight =>
      .list [.text "weight_to_fee", .text (toString weight.refTime),
        .text (toString weight.proofSize)]
    | .storage key => .list [.text "storage", .text key.text]
    | .rpc method params => .list [.text "rpc", .text method, params]
    | .submit call signer => .list [.text "submit", hexJson call, toJson signer.account]
    | .disconnect => .list [.text "disconnect"]

open Document Members in
instance : FromDocument PaymentInfo where
  read := recordOf <|
    (of PaymentInfo.mk).and (required "weight") |>.and (required "class")
      |>.and (required "partial_fee")

end XcmTasks

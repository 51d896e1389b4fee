import XcmTasks.Node.Request
import XcmTasks.Rpc.Answer
import XcmTasks.Rpc.ClientCache
import XcmTasks.Rpc.Endpoint

/-!
A connection to one node. Requests are counted from one, and the first asks for the genesis hash.
The connection remembers which nonce an account that submitted something has to use next, since what
it submitted may not be on the chain yet. Once it is closed it posts nothing more.
-/

namespace XcmTasks.Rpc

structure Post where
  client : Client
  url : WebUrl
  message : Message

abbrev Wire := Dialogue Post fun _ => Reply

structure Connection where
  client : Client
  url : WebUrl
  callIndices : CallIndices
  genesisHash : FixedBytes 32
  /-- The id of the next request. After the largest one the ids begin again, with zero. -/
  nextId : UInt64
  /-- The next nonces of the accounts that submitted something, the latest first. -/
  nonces : List (AccountId × UInt32)
  closed : Bool

/-- The nonce that an account has to use next, as far as the connection remembers. -/
def Connection.nextNonce (c : Connection) (account : AccountId) : UInt32 :=
  (c.nonces.lookup account).getD 0

/-- An operation on a connection. What it did to the connection stays done if it fails. -/
abbrev OnConnection := ExceptT NodeError (StateT Connection Wire)

def post (p : Post) : OnConnection Reply := ExceptT.lift (StateT.lift (Dialogue.question p))

/-- Sends a request, unless the connection is closed. -/
def request (method : String) (params : Json) : OnConnection Json := do
  let c ← get
  if c.closed then throw .connectionClosed
  set { c with nextId := c.nextId + 1 }
  let reply ← post ⟨c.client, c.url, ⟨c.nextId, method, params⟩⟩
  liftExcept (reply.result c.url.text)

/-! ### Operations -/

def stateCall (function : String) (data : Bytes) : OnConnection Json :=
  request "state_call" (.list [.text function, .text (Hex.encode data)])

def paymentInfo (call : Bytes) : OnConnection PaymentInfo := do
  let answer ← stateCall "TransactionPaymentCallApi_query_call_info"
    (call ++ encode (UInt32.ofNat call.length))
  let (weight, dispatchClass, partialFee) ←
    liftExcept (Answer.binary (Weight × UInt8 × UInt128) "RuntimeDispatchInfo" answer)
  return ⟨weight, dispatchClass, partialFee⟩

def weightToFee (weight : Weight) : OnConnection UInt128 := do
  let answer ← stateCall "TransactionPaymentApi_query_weight_to_fee" (encode weight)
  liftExcept (Answer.binary UInt128 "weight fee" answer)

def storage (key : StorageKey) : OnConnection (Option Bytes) := do
  let answer ← request "state_getStorage" (.list [.text key.text])
  liftExcept (Answer.storageValue answer)

/-- Where the chain keeps the nonce of an account, first in the account's entry. -/
def accountKey (account : AccountId) : StorageKey :=
  .entry "System" "Account" .blake2x128Concat account.bytes

/-- The nonce of an account on the chain, zero for one that it does not know. -/
def chainNonce (account : AccountId) : OnConnection UInt32 := do
  match ← storage (accountKey account) with
  | none => return 0
  | some bytes =>
    match decodeFront UInt32 bytes with
    | some nonce => return nonce
    | none => throw (.undecodable "AccountInfo" Decoder.failureText)

/-- The nonce after this one; after the last one there is none, and it is used again. -/
def nonceAfter (nonce : UInt32) : UInt32 :=
  if nonce.toNat + 1 < UInt32.size then nonce + 1 else nonce

/-- Signs a call with the larger of the chain's nonce and the remembered one, and submits it. -/
def submit (call : Bytes) (signer : Signer) : OnConnection Receipt := do
  let onChain ← chainNonce signer.account
  let nonce := max onChain ((← get).nextNonce signer.account)
  let version ← liftExcept (Answer.runtimeVersion (← request "state_getRuntimeVersion" (.list [])))
  let extrinsic ← liftExcept <| signer.sign
    ⟨signer.account, call, nonce, version.specVersion, version.transactionVersion,
      (← get).genesisHash⟩
  let answer ← request "author_submitExtrinsic" (.list [.text (Hex.encode extrinsic)])
  let hash ← liftExcept (Answer.extrinsicHash answer)
  modify fun c => { c with nonces := (signer.account, nonceAfter nonce) :: c.nonces }
  return .submitted hash

def disconnect : OnConnection Unit := modify fun c => { c with closed := true }

def perform : (request : Request) → OnConnection request.Answer
  | .paymentInfo call _ => paymentInfo call
  | .weightToFee weight => weightToFee weight
  | .storage key => storage key
  | .rpc method params => request method params
  | .submit call signer => submit call signer
  | .disconnect => disconnect

namespace Connection

def encodeCall (c : Connection) : CallEncoding := fun call =>
  match c.callIndices.encodeCall? call with
  | some bytes => .ok bytes
  | none => .error (.unknownCall call.pallet call.function)

/-- Opens a connection to the node of a chain, which has to tell its genesis hash. -/
def connect (client : Client) (url : WebUrl) (chain : Chain) :
    Wire (Except NodeError Connection) := do
  let opening : Connection := ⟨client, url, chain.callIndices, .zero, 1, [], false⟩
  let (answer, c) ← (request "chain_getBlockHash" (.list [.ofNat 0])).run.run opening
  return do
    let hash ← Answer.genesisHash (← answer)
    return { c with genesisHash := hash }

end Connection

end XcmTasks.Rpc

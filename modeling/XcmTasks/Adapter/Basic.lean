import XcmTasks.Adapter.Error
import XcmTasks.Node.Request
import XcmTasks.Transact

/-!
Adapters: a chain with the link to it while there is one. Connecting takes one attempt, and only
without a link; disconnecting gives the link up whatever the node says to it. All other operations
fail without asking anybody when there is no link.
-/

namespace XcmTasks

structure Adapter where
  chain : Chain
  link : Option Link

/-- An operation on an adapter, which leaves the adapter as it is. -/
abbrev Operation := ExceptT AdapterError Talk

namespace Adapter

def new (chain : Chain) : Adapter := ⟨chain, none⟩

def key (a : Adapter) : String := a.chain.key

def isReady (a : Adapter) : Bool := a.link.isSome

/-! ### Lifecycle -/

def connect (a : Adapter) : Talk (Except AdapterError Unit × Adapter) := do
  match a.link with
  | some _ => return (.error (.alreadyInitialized a.key), a)
  | none =>
    match ← Talk.connect a.chain with
    | .ok link => return (.ok (), { a with link := some link })
    | .error e => return (.error (.ofNode e), a)

def disconnect (a : Adapter) : Talk (Except AdapterError Unit × Adapter) := do
  match a.link with
  | none => return (.error (.notInitialized a.key), a)
  | some link =>
    let a := { a with link := none }
    match ← Talk.send link .disconnect with
    | .ok () => return (.ok (), a)
    | .error e => return (.error (.ofNode e), a)

/-! ### Asking the chain -/

def requireLink (a : Adapter) : Operation Link :=
  match a.link with
  | some link => pure link
  | none => throw (.notInitialized a.key)

def requireParaId (a : Adapter) : Except AdapterError UInt32 :=
  match a.chain.paraId with
  | some paraId => .ok paraId
  | none => .error (.configuration ("chain " ++ a.key ++ " has no para id"))

def location (a : Adapter) : Except AdapterError Location :=
  Location.siblingParachain <$> a.requireParaId

end Adapter

def Link.send (link : Link) (request : Request) : Operation request.Answer := do
  match ← Talk.send link request with
  | .ok answer => return answer
  | .error e => throw (.ofNode e)

def Link.encoded (link : Link) (call : Call) : Operation Bytes :=
  match link.encodeCall call with
  | .ok bytes => pure bytes
  | .error e => throw (.ofNode e)

namespace Adapter

def encodeCall (a : Adapter) (call : Call) : Operation Bytes := do
  (← a.requireLink).encoded call

/-- What a call weighs together with so many instructions of a message around it. -/
def overallWeight? (a : Adapter) (callWeight : Weight) (instructions : UInt64) : Option Weight := do
  callWeight.checkedAdd (← a.chain.instructionWeight.checkedMul instructions)

/-- Has a call dry-run as `sender`, and adds the weight of the instructions around it. -/
def xcmWeight (a : Adapter) (call : Call) (sender : AccountId) (instructions : UInt64) :
    Operation XcmWeight := do
  let link ← a.requireLink
  let bytes ← link.encoded call
  let info ← link.send (.paymentInfo bytes sender)
  match a.overallWeight? info.weight instructions with
  | some overall => return ⟨bytes, info.weight, overall⟩
  | none => throw (.weightOverflow a.key)

def readStorage (a : Adapter) (α : Type) [Scale α] (key : StorageKey) (what : String) :
    Operation (Option α) := do
  let link ← a.requireLink
  match ← link.send (.storage key) with
  | none => return none
  | some bytes =>
    match decodeFront α bytes with
    | some value => return some value
    | none => throw (.undecodable (what ++ " on " ++ a.key ++ ": " ++ Decoder.failureText))

/-- Has a call signed and submitted. A receipt of an extrinsic that failed on the chain is an
error. -/
def submit (a : Adapter) (call : Call) (signer : Signer) : Operation Receipt := do
  let link ← a.requireLink
  let bytes ← link.encoded call
  let receipt ← link.send (.submit bytes signer)
  match receipt.dispatchError? with
  | some (pallet, name) => throw (.rejected a.key pallet name)
  | none => return receipt

end Adapter

end XcmTasks

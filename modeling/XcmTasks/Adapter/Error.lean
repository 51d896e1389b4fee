import XcmTasks.Chain.Basic
import XcmTasks.Node.Error

/-! Why an operation on a chain did not come about. -/

namespace XcmTasks

/-- Why an asset has no price on a chain. -/
inductive UnresolvedReason where
  | notRegistered
  | noRate
deriving DecidableEq, Repr

def UnresolvedReason.message : UnresolvedReason → String
  | .notRegistered => "asset not registered"
  | .noRate => "metadata not initialized"

inductive AdapterError where
  | notInitialized (chain : String)
  | alreadyInitialized (chain : String)
  | unresolvedAsset (chain location : String) (reason : UnresolvedReason)
  /-- The extrinsic was included and failed on the chain. -/
  | rejected (chain pallet name : String)
  | connection (reason : String)
  | weightOverflow (chain : String)
  | feeOverflow (chain : String)
  | undecodable (reason : String)
  | node (cause : NodeError)
  | configuration (reason : String)
deriving DecidableEq, Repr

namespace AdapterError

def message : AdapterError → String
  | .notInitialized chain => "Adapter not initialized: " ++ chain
  | .alreadyInitialized chain => "Adapter already initialized: " ++ chain
  | .unresolvedAsset chain location reason =>
    "Unresolved asset " ++ location ++ " on " ++ chain ++ ": " ++ reason.message
  | .rejected chain pallet name =>
    "Extrinsic rejected by " ++ chain ++ ": " ++ pallet ++ "." ++ name
  | .connection reason => "Connection error: " ++ reason
  | .weightOverflow chain => "Weight overflow on " ++ chain
  | .feeOverflow chain => "Fee overflow on " ++ chain
  | .undecodable reason => "Decode error: " ++ reason
  | .node cause => "RPC error: " ++ cause.message
  | .configuration reason => "Configuration error: " ++ reason

def kind : AdapterError → String
  | .notInitialized _ => "NotInitialized"
  | .alreadyInitialized _ => "AlreadyInitialized"
  | .unresolvedAsset _ _ _ => "UnresolvedAsset"
  | .rejected _ _ _ => "ChainRejected"
  | .connection _ => "Connection"
  | .weightOverflow _ => "WeightOverflow"
  | .feeOverflow _ => "FeeOverflow"
  | .undecodable _ => "Decode"
  | .node _ => "Rpc"
  | .configuration _ => "Configuration"

/-- What a failed request means for the operation that made it. -/
def ofNode (e : NodeError) : AdapterError :=
  match e with
  | .unreachable _ _ => .connection e.message
  | .connectionClosed => .connection e.message
  | .undecodable _ _ => .undecodable e.message
  | _ => .node e

def ofChain (e : ChainError) : AdapterError := .configuration e.message

end AdapterError

end XcmTasks

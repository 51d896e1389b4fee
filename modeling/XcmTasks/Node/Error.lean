/-! Why a node could not be asked, or what was wrong with its answer. -/

namespace XcmTasks

inductive NodeError where
  | unreachable (endpoint reason : String)
  | connectionClosed
  | remote (code : Int) (message : String)
  | transport (reason : String)
  | invalidResponse (reason : String)
  | undecodable (what reason : String)
  | unknownCall (pallet function : String)
  | signing (reason : String)
deriving DecidableEq, Repr

namespace NodeError

def message : NodeError → String
  | .unreachable endpoint reason => "Failed to connect to " ++ endpoint ++ ": " ++ reason
  | .connectionClosed => "Connection closed"
  | .remote code text => "RPC error " ++ toString code ++ ": " ++ text
  | .transport reason => "Transport error: " ++ reason
  | .invalidResponse reason => "Invalid response: " ++ reason
  | .undecodable what reason => "Failed to decode " ++ what ++ ": " ++ reason
  | .unknownCall pallet function => "No call index configured for " ++ pallet ++ "." ++ function
  | .signing reason => "Signing failed: " ++ reason

def kind : NodeError → String
  | .unreachable _ _ => "Connection"
  | .connectionClosed => "ConnectionClosed"
  | .remote _ _ => "Rpc"
  | .transport _ => "Transport"
  | .invalidResponse _ => "InvalidResponse"
  | .undecodable _ _ => "Decode"
  | .unknownCall _ _ => "UnknownCall"
  | .signing _ => "Signing"

def isConnection : NodeError → Bool
  | .unreachable _ _ => true
  | .connectionClosed => true
  | _ => false

end NodeError

end XcmTasks

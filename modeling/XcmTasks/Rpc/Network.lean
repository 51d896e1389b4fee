import XcmTasks.Rpc.Connection

/-!
Nodes that are reached by JSON-RPC over HTTP. Each attempt to connect opens a connection of its own;
the HTTP clients are kept for all of them.
-/

namespace XcmTasks

/-- What is kept on this side of the wire, and the state of what is on the other side. -/
structure RpcNodes (σ : Type) where
  clients : ClientCache
  /-- How long a request may take, in milliseconds. -/
  requestTimeout : UInt64
  /-- The connections, each with the number of the attempt that opened it. -/
  connections : List (Nat × Rpc.Connection)
  /-- The time, in milliseconds. -/
  now : Nat
  wire : σ

namespace RpcNodes

open Rpc

variable {σ : Type}

def optionsFor (s : RpcNodes σ) (chain : Chain) (url : WebUrl) : ClientOptions :=
  { endpoint := url.text, chainKey := chain.key, requestTimeout := s.requestTimeout }

def connectAt (make : ClientOptions → Except String Unit) (transport : Post → σ → Reply × σ)
    (attempt : Nat) (chain : Chain) (url : WebUrl) (s : RpcNodes σ) :
    Except NodeError CallEncoding × RpcNodes σ :=
  match s.clients.getIfMade make (s.optionsFor chain url) s.now with
  | (.error e, clients) => (.error e, { s with clients := clients })
  | (.ok client, clients) =>
    match (Connection.connect client url chain).run transport s.wire with
    | (.error e, wire) => (.error e, { s with clients := clients, wire := wire })
    | (.ok c, wire) =>
      (.ok c.encodeCall, { s with
        clients := clients
        connections := (attempt, c) :: s.connections
        wire := wire })

def connect (make : ClientOptions → Except String Unit) (transport : Post → σ → Reply × σ)
    (attempt : Nat) (chain : Chain) (s : RpcNodes σ) :
    Except NodeError CallEncoding × RpcNodes σ :=
  match requestUrl chain.endpoint with
  | .error e => (.error e, s)
  | .ok url => s.connectAt make transport attempt chain url

def keep (s : RpcNodes σ) (id : Nat) (c : Connection) (wire : σ) : RpcNodes σ :=
  { s with
    connections := s.connections.map fun e => if e.1 = id then (id, c) else e
    wire := wire }

def send (transport : Post → σ → Reply × σ) (id : Nat) (request : Request) (s : RpcNodes σ) :
    Except NodeError request.Answer × RpcNodes σ :=
  match s.connections.lookup id with
  | none => (.error .connectionClosed, s)
  | some c =>
    let ((answer, c), wire) := ((perform request).run.run c).run transport s.wire
    (answer, s.keep id c wire)

/-- All nodes that a transport of messages reaches, with clients that can always be made. -/
def network (transport : Post → σ → Reply × σ) : Network (RpcNodes σ) :=
  ⟨connect (fun _ => .ok ()) transport, send transport⟩

end RpcNodes

end XcmTasks

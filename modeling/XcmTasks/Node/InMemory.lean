import XcmTasks.Node.Request

/-!
Nodes that are kept in memory: they answer from tables and remember what they were asked. A node
that is closed answers nothing and remembers nothing more.
-/

namespace XcmTasks

structure InMemoryNode where
  /-- Calls without an index are encoded by name. -/
  callIndices : CallIndices := .empty
  callWeight : Weight := ⟨1000000000, 10000⟩
  partialFee : UInt128 := 1000000
  feePerRefTime : UInt128 := 1
  /-- Entries of the storage, the latest first. -/
  entries : List (Bytes × Bytes) := []
  responses : List (String × Json) := []
  events : List ChainEvent := []
  /-- What every request fails with. -/
  failure : Option NodeError := none
  log : List Request := []
  nonce : UInt32 := 0
  closed : Bool := false

namespace InMemoryNode

def withEntry (node : InMemoryNode) (key : StorageKey) (value : Bytes) : InMemoryNode :=
  { node with entries := (key.bytes, value) :: node.entries }

/-- Lets every submitted extrinsic fail on the chain. -/
def withDispatchError (node : InMemoryNode) (pallet name : String) : InMemoryNode :=
  let error : Json := .object [("dispatchError",
    .object [("module", .object [("name", .text name), ("section", .text pallet)])])]
  { node with events := node.events ++ [⟨"system", "ExtrinsicFailed", error⟩] }

def namedCall (call : Call) : Bytes := encode call.name ++ call.args

def encodeCall (indices : CallIndices) : CallEncoding := fun call =>
  match indices.encodeCall? call with
  | some bytes => .ok bytes
  | none => .ok (namedCall call)

def splitNamedCall? (bytes : Bytes) : Option (String × Bytes) :=
  (decode : Decoder String) bytes

def hashText (n : Nat) : String := Hex.encode (littleEndian 32 n).reverse

def record (node : InMemoryNode) (request : Request) : Except NodeError Unit × InMemoryNode :=
  if node.closed then (.error .connectionClosed, node)
  else
    let node := { node with log := node.log ++ [request] }
    match node.failure with
    | some e => (.error e, node)
    | none => (.ok (), node)

def submit (node : InMemoryNode) (call : Bytes) (signer : Signer) :
    Except NodeError Receipt × InMemoryNode :=
  let nonce := node.nonce
  let node := { node with nonce := nonce + 1 }
  match signer.sign ⟨signer.account, call, nonce, 1, 1, .zero⟩ with
  | .error e => (.error e, node)
  | .ok _ =>
    (.ok ⟨hashText nonce.toNat, .finalized (hashText (nonce.toNat + 1)), node.events⟩, node)

def serve (node : InMemoryNode) :
    (request : Request) → Except NodeError request.Answer × InMemoryNode
  | .paymentInfo _ _ => (.ok ⟨node.callWeight, 0, node.partialFee⟩, node)
  | .weightToFee weight =>
    (.ok (BitVec.ofNat 128 weight.refTime.toNat * node.feePerRefTime), node)
  | .storage key => (.ok (node.entries.lookup key.bytes), node)
  | .rpc method _ =>
    match node.responses.lookup method with
    | some response => (.ok response, node)
    | none => (.error (.remote (-32601) ("Method not found: " ++ method)), node)
  | .submit call signer => node.submit call signer
  | .disconnect => (.ok (), { node with closed := true })

def answer (node : InMemoryNode) (request : Request) :
    Except NodeError request.Answer × InMemoryNode :=
  match node.record request with
  | (.error e, node) => (.error e, node)
  | (.ok (), node) => node.serve request

/-- What was submitted, with its signers. -/
def submissions (node : InMemoryNode) : List (Bytes × AccountId) :=
  node.log.filterMap fun
    | .submit call signer => some (call, signer.account)
    | _ => none

def isStorage : Request → Bool
  | .storage _ => true
  | _ => false

def storageReads (node : InMemoryNode) : Nat := node.log.countP isStorage

end InMemoryNode

/-- Nodes for chains. The first connection to a chain leads to its first node, the next one to the
next, and the last node takes all further ones. -/
structure InMemoryNodes where
  nodes : List (String × InMemoryNode)
  /-- Which chain and node each link leads to, and the number of the link. -/
  links : List (Nat × String × Nat)

namespace InMemoryNodes

def positions (key : String) (nodes : List (String × InMemoryNode)) : List Nat :=
  (nodes.zipIdx.filter fun n => n.1.1 == key).map Prod.snd

def connect (attempt : Nat) (chain : Chain) (s : InMemoryNodes) :
    Except NodeError CallEncoding × InMemoryNodes :=
  let earlier := s.links.countP fun l => l.2.1 == chain.key
  let places := positions chain.key s.nodes
  match places[min earlier (places.length - 1)]? with
  | none => (.error (.unreachable chain.endpoint "no node for this chain"), s)
  | some place =>
    match s.nodes[place]? with
    | none => (.error (.unreachable chain.endpoint "no node for this chain"), s)
    | some (_, node) =>
      (.ok (InMemoryNode.encodeCall node.callIndices),
        { s with links := (attempt, chain.key, place) :: s.links })

def send (link : Nat) (request : Request) (s : InMemoryNodes) :
    Except NodeError request.Answer × InMemoryNodes :=
  match s.links.lookup link with
  | none => (.error .connectionClosed, s)
  | some (_, place) =>
    match s.nodes[place]? with
    | none => (.error .connectionClosed, s)
    | some (key, node) =>
      let (answer, node) := node.answer request
      (answer, { s with nodes := s.nodes.set place (key, node) })

/-- The nodes by name: the key of the chain, numbered from the second node of the chain on. -/
def named (s : InMemoryNodes) : List (String × InMemoryNode) :=
  s.nodes.zipIdx.map fun ((key, node), place) =>
    let number := (s.nodes.take place).countP fun n => n.1 == key
    (if number = 0 then key else key ++ "#" ++ toString number, node)

def requestsSince (s earlier : InMemoryNodes) : List (String × List Request) :=
  (s.named.zip earlier.nodes).filterMap fun ((name, node), old) =>
    match node.log.drop old.2.log.length with
    | [] => none
    | requests => some (name, requests)

def network : Network InMemoryNodes := ⟨connect, send⟩

end InMemoryNodes

end XcmTasks

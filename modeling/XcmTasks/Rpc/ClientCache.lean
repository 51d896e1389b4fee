import XcmTasks.Node.Error

/-!
HTTP clients that are kept and used again. Who asks for the same options gets the same client, as
long as it is not too old; other options never share a client. Times are in milliseconds.
-/

namespace XcmTasks

/-- What an HTTP client is made for. -/
structure ClientOptions where
  endpoint : String
  chainKey : String
  maxIdle : Nat := 10
  keepAlive : UInt64 := 90000
  requestTimeout : UInt64 := 30000
  headers : List (String × String) :=
    [("User-Agent", "OAK-SDK/0.1"), ("Content-Type", "application/json")]
deriving DecidableEq, Repr

/-- A client, told from all others of its cache by its number. -/
structure Client where
  number : Nat
deriving DecidableEq, Repr

structure CachedClient where
  options : ClientOptions
  client : Client
  createdAt : Nat
deriving DecidableEq, Repr

structure ClientCache where
  lifetime : Nat := 1800000
  entries : List CachedClient := []
  created : Nat := 0
deriving DecidableEq, Repr

namespace ClientCache

def isExpired (cache : ClientCache) (now : Nat) (entry : CachedClient) : Bool :=
  cache.lifetime < now - entry.createdAt

def find? (cache : ClientCache) (options : ClientOptions) : Option Client :=
  (cache.entries.find? fun e => e.options == options).map CachedClient.client

/-- Drops the client for these options if it is too old. -/
def refresh (cache : ClientCache) (options : ClientOptions) (now : Nat) : ClientCache :=
  { cache with
    entries := cache.entries.filter fun e => !(e.options == options && cache.isExpired now e) }

/-- Makes a client, and keeps it unless there is one for these options by now. -/
def add (cache : ClientCache) (options : ClientOptions) (now : Nat) : Client × ClientCache :=
  let client : Client := ⟨cache.created⟩
  let cache := { cache with created := cache.created + 1 }
  match cache.find? options with
  | some other => (other, cache)
  | none => (client, { cache with entries := ⟨options, client, now⟩ :: cache.entries })

/-- The client for these options, which is made if there is none. It takes the place of one that is
too old. -/
def get (cache : ClientCache) (options : ClientOptions) (now : Nat) : Client × ClientCache :=
  let cache := cache.refresh options now
  match cache.find? options with
  | some client => (client, cache)
  | none => cache.add options now

/-- The client for these options, where making one may fail. Then nothing is kept. -/
def getIfMade (make : ClientOptions → Except String Unit) (cache : ClientCache)
    (options : ClientOptions) (now : Nat) : Except NodeError Client × ClientCache :=
  match (cache.refresh options now).find? options, make options with
  | none, .error reason => (.error (.transport reason), cache.refresh options now)
  | _, _ =>
    let (client, cache) := cache.get options now
    (.ok client, cache)

def clear (cache : ClientCache) : ClientCache := { cache with entries := [] }

/-- Drops the clients that are too old, and tells how many these were. -/
def dropExpired (cache : ClientCache) (now : Nat) : Nat × ClientCache :=
  (cache.entries.countP (cache.isExpired now),
    { cache with entries := cache.entries.filter fun e => !cache.isExpired now e })

end ClientCache

end XcmTasks

import XcmTasks.Adapter.Basic
import XcmTasks.Table

/-!
The adapters of all chains that are configured. Each is registered under the key of its chain; those
that can be the origin of tasks are also registered as origins, under the same key.
-/

namespace XcmTasks

structure Registry where
  /-- All adapters. Tables name them by their positions here. -/
  adapters : List Adapter
  positions : Table Nat
  origins : Table Nat

namespace Registry

def empty : Registry := ⟨[], .empty, .empty⟩

/-- Adds the adapter of a chain, not yet connected. -/
def register (r : Registry) (chain : Chain) : Except AdapterError Registry :=
  if r.positions.contains chain.key then
    .error (.configuration ("chain " ++ chain.key ++ " is configured twice"))
  else
    match chain.validate with
    | .error e => .error (.ofChain e)
    | .ok () =>
      let position := r.adapters.length
      .ok {
        adapters := r.adapters ++ [.new chain]
        positions := r.positions.insert chain.key position
        origins :=
          if chain.family = .oak then r.origins.insert chain.key position else r.origins }

def ofChains (chains : List Chain) : Except AdapterError Registry := chains.foldlM register empty

def keys (r : Registry) : List String := r.positions.keys

def find? (table : Table Nat) (r : Registry) (key : String) : Option Adapter := do
  r.adapters[← table.get? key]?

def unknownKey (key : String) : AdapterError :=
  .configuration ("no chain configured with key " ++ key)

def get (r : Registry) (key : String) : Except AdapterError Adapter :=
  match find? r.positions r key with
  | some a => .ok a
  | none => .error (unknownKey key)

def origin (r : Registry) (key : String) : Except AdapterError Adapter :=
  match find? r.origins r key with
  | some a => .ok a
  | none => .error (.configuration ("no oak chain configured with key " ++ key))

/-! ### Lifecycle -/

/-- Does something with one adapter, and keeps what becomes of it. -/
def update (r : Registry) (position : Nat)
    (f : Adapter → Talk (Except AdapterError Unit × Adapter)) :
    Talk (Except AdapterError Unit × Registry) := do
  match r.adapters[position]? with
  | none => return (.ok (), r)
  | some a =>
    let (result, a) ← f a
    return (result, { r with adapters := r.adapters.set position a })

def updateKey (r : Registry) (key : String)
    (f : Adapter → Talk (Except AdapterError Unit × Adapter)) :
    Talk (Except AdapterError Unit × Registry) := do
  match r.positions.get? key with
  | some position => r.update position f
  | none => return (.error (unknownKey key), r)

/-- Connects adapters one after another, up to the first that fails. -/
def connectEach : List Nat → Registry → Talk (Except AdapterError Unit × Registry)
  | [], r => return (.ok (), r)
  | position :: others, r => do
    match ← r.update position Adapter.connect with
    | (.ok (), r) => connectEach others r
    | (.error e, r) => return (.error e, r)

/-- Connects all adapters in ascending order of their keys. -/
def connectAll (r : Registry) : Talk (Except AdapterError Unit × Registry) :=
  connectEach (r.positions.entries.map Prod.snd) r

/-- Disconnects an adapter that is connected, and does not mind if that fails. -/
def release (a : Adapter) : Talk (Except AdapterError Unit × Adapter) := do
  if a.isReady then
    let (_, a) ← a.disconnect
    return (.ok (), a)
  else return (.ok (), a)

def disconnectEach : List Nat → Registry → Talk Registry
  | [], r => return r
  | position :: others, r => do
    let (_, r) ← r.update position release
    disconnectEach others r

def disconnectAll (r : Registry) : Talk Registry :=
  disconnectEach (r.positions.entries.map Prod.snd) r

end Registry

end XcmTasks

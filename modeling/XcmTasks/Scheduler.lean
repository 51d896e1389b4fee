import XcmTasks.Config.Settings
import XcmTasks.Registry
import XcmTasks.Scheduling.Basic

/-!
Setting up a scheduler from settings and chains that are added to them, connecting it and shutting
it down. Connecting is all or nothing: when one chain fails, those connected before are
disconnected.
-/

namespace XcmTasks

/-- The adapters of all chains, and which of them tasks are scheduled on. -/
structure Scheduler where
  registry : Registry
  originKey : String

structure Setup where
  settings : Option Settings
  chains : List Chain
  origin : Option String

inductive SetupError where
  | settings (cause : SettingsError)
  | adapter (cause : AdapterError)
  | missingOrigin
deriving DecidableEq, Repr

def SetupError.message : SetupError → String
  | .settings cause => "Invalid configuration: " ++ cause.message
  | .adapter cause => "Adapter setup failed: " ++ cause.message
  | .missingOrigin => "No oak chain is configured to schedule tasks on"

namespace Setup

/-- The first chain of the registry that can be the origin. -/
def firstOrigin (r : Registry) : Except SetupError String :=
  match r.keys.find? fun key => (r.origin key).toBool with
  | some key => .ok key
  | none => .error .missingOrigin

def chooseOrigin (setup : Setup) (settings : Settings) (r : Registry) : Except SetupError String :=
  match setup.origin with
  | some key => .ok key
  | none =>
    match settings.originKey with
    | .ok key => .ok key
    | .error .missingOrigin => firstOrigin r
    | .error e => .error (.settings e)

/-- Makes the adapters and chooses the origin. Nothing is connected. -/
def build (setup : Setup) (environment : Environment) : Except SetupError Scheduler := do
  let settings := setup.settings.getD default
  let chains ← (settings.enabledChains environment).mapError .settings
  let registry ← (Registry.ofChains (chains ++ setup.chains)).mapError .adapter
  let key ← setup.chooseOrigin settings registry
  let _ ← (registry.origin key).mapError .adapter
  return ⟨registry, key⟩

end Setup

namespace Scheduler

def origin (s : Scheduler) : Except AdapterError Adapter := s.registry.origin s.originKey

def shutdown (s : Scheduler) : Talk Scheduler := do
  return { s with registry := ← s.registry.disconnectAll }

def connect (s : Scheduler) : Talk (Except SetupError Unit × Scheduler) := do
  match ← s.registry.connectAll with
  | (.ok (), registry) => return (.ok (), { s with registry := registry })
  | (.error e, registry) =>
    return (.error (.adapter e), ← shutdown { s with registry := registry })

/-- Schedules a task on a chain in the flow that the chain is best served with. -/
def schedule (s : Scheduler) (destination : String) (request : TaskRequest) (signer : Signer) :
    Scheduling ScheduledTask := do
  let destination ← Scheduling.require .buildingPayload (s.registry.get destination)
  let origin ← Scheduling.require .buildingPayload s.origin
  Scheduling.through (Scheduling.recommendedFlow destination) origin destination request signer

end Scheduler

def Setup.start (setup : Setup) (environment : Environment) :
    Talk (Except SetupError Scheduler) := do
  match setup.build environment with
  | .error e => return .error e
  | .ok s =>
    let (result, s) ← s.connect
    return result.map fun _ => s

end XcmTasks

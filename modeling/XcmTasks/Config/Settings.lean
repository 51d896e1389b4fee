import XcmTasks.Chain.Basic
import XcmTasks.Config.Value
import XcmTasks.Url.Basic

/-!
The settings: chains under their keys, logging, and the scheduling itself. A chain that is enabled
has to make a valid chain once its endpoint is resolved; one that is not is not looked at. The
origin of tasks is the chain named in the settings, or else the first of the right family.
-/

namespace XcmTasks

inductive LogFormat where
  | json
  | pretty
  | compact
deriving DecidableEq, Repr

structure LoggingSettings where
  level : String
  format : LogFormat
  structured : Bool
deriving DecidableEq, Repr

structure SchedulerSettings where
  origin : Option String
  /-- How long a request may take, in milliseconds. -/
  requestTimeout : UInt64
deriving DecidableEq, Repr

/-- A call in the form `Pallet.function`, with its index. -/
structure CallEntry where
  call : String
  index : CallIndex
deriving DecidableEq, Repr

structure ChainSettings where
  family : ChainFamily
  network : String
  relayChain : String
  endpoint : ConfigValue
  paraId : Option UInt32
  accountKind : AccountKind
  defaultAsset : Asset
  assets : List Asset
  instructionWeight : Weight
  derivation : Option Derivation
  callIndices : List CallEntry
  enabled : Bool
deriving DecidableEq, Repr

structure Settings where
  chains : Table ChainSettings
  logging : LoggingSettings
  scheduler : SchedulerSettings
deriving DecidableEq, Repr

inductive SettingsError where
  | unresolvedEndpoint (chain variableName : String)
  | invalidEndpoint (chain endpoint reason : String)
  | invalidCallIndex (chain call : String)
  | chain (cause : ChainError)
  | unknownOrigin (key : String)
  | originNotOak (key : String) (family : ChainFamily)
  | missingOrigin
deriving DecidableEq, Repr

def SettingsError.message : SettingsError → String
  | .unresolvedEndpoint key name =>
    "Chain " ++ key ++ ": cannot resolve endpoint: " ++ ConfigValue.missingMessage name
  | .invalidEndpoint key endpoint reason =>
    "Chain " ++ key ++ ": invalid endpoint '" ++ endpoint ++ "': " ++ reason
  | .invalidCallIndex key call =>
    "Chain " ++ key ++ ": invalid call index entry '" ++ call
      ++ "', expected Pallet.function"
  | .chain cause => cause.message
  | .unknownOrigin key => "Origin chain '" ++ key ++ "' is not configured or not enabled"
  | .originNotOak key family =>
    "Origin chain '" ++ key ++ "' is a " ++ family.text
      ++ " chain; tasks can only be scheduled on oak chains"
  | .missingOrigin => "No origin chain configured and no enabled oak chain found"

def SettingsError.kind : SettingsError → String
  | .unresolvedEndpoint _ _ => "UnresolvedEndpoint"
  | .invalidEndpoint _ _ _ => "InvalidEndpoint"
  | .invalidCallIndex _ _ => "InvalidCallIndex"
  | .chain cause => cause.kind
  | .unknownOrigin _ => "UnknownOrigin"
  | .originNotOak _ _ => "OriginNotOak"
  | .missingOrigin => "MissingOrigin"

/-! ### Chains -/

def nodeSchemes : List String := ["ws", "wss", "http", "https"]

def endpointFault? (endpoint : String) : Option String :=
  match Url.parse endpoint with
  | .error e => some e.message
  | .ok url =>
    if nodeSchemes.contains url.scheme then none
    else some ("unsupported scheme '" ++ url.scheme ++ "'")

namespace CallEntry

/-- The names before and behind the first dot, if there is one between two names. -/
def names? (call : String) : Option (String × String) :=
  let pallet := call.toList.takeWhile (· != '.')
  let function := (call.toList.dropWhile (· != '.')).drop 1
  if pallet.isEmpty || function.isEmpty then none
  else some (String.ofList pallet, String.ofList function)

end CallEntry

namespace ChainSettings

def indices (s : ChainSettings) (key : String) : Except SettingsError CallIndices :=
  s.callIndices.foldlM (fun indices entry =>
    match CallEntry.names? entry.call with
    | some (pallet, function) => .ok (CallIndices.insert indices pallet function entry.index)
    | none => .error (.invalidCallIndex key entry.call)) .empty

/-- The chain that is configured under a key. Its default asset is its own currency. -/
def toChain (s : ChainSettings) (environment : Environment) (key : String) :
    Except SettingsError Chain := do
  let endpoint ← match s.endpoint.resolve environment with
    | .ok endpoint => pure endpoint
    | .error name => throw (.unresolvedEndpoint key name)
  match endpointFault? endpoint with
  | some reason => throw (.invalidEndpoint key endpoint reason)
  | none =>
    let indices ← s.indices key
    let chain : Chain := {
      key := key
      family := s.family
      network := s.network
      relayChain := s.relayChain
      endpoint := endpoint
      paraId := s.paraId
      accountKind := s.accountKind
      defaultAsset := { s.defaultAsset with isNative := true }
      assets := s.assets
      instructionWeight := s.instructionWeight
      derivation := s.derivation
      callIndices := indices }
    match chain.validate with
    | .ok () => return chain
    | .error e => throw (.chain e)

end ChainSettings

/-! ### Settings -/

namespace Settings

/-- The entries of the chains that are enabled, in ascending order of their keys. -/
def enabled (s : Settings) : List (String × ChainSettings) :=
  s.chains.entries.filter fun e => e.2.enabled

def enabledChains (s : Settings) (environment : Environment) : Except SettingsError (List Chain) :=
  s.enabled.mapM fun e => e.2.toChain environment e.1

def originKey (s : Settings) : Except SettingsError String :=
  match s.scheduler.origin with
  | some key =>
    match s.enabled.lookup key with
    | none => .error (.unknownOrigin key)
    | some chain =>
      if chain.family = .oak then .ok key else .error (.originNotOak key chain.family)
  | none =>
    match s.enabled.find? fun e => e.2.family == .oak with
    | some e => .ok e.1
    | none => .error .missingOrigin

def validate (s : Settings) (environment : Environment) : Except SettingsError Unit := do
  let _ ← s.enabledChains environment
  let _ ← s.originKey

end Settings

/-! ### JSON -/

instance : Inhabited LoggingSettings := ⟨⟨"info", .pretty, false⟩⟩
instance : Inhabited SchedulerSettings := ⟨⟨none, 30000⟩⟩
instance : Inhabited Settings := ⟨⟨.empty, default, default⟩⟩

instance : ToJson LogFormat where
  toJson
    | .json => .text "json"
    | .pretty => .text "pretty"
    | .compact => .text "compact"

instance : ToJson LoggingSettings where
  toJson s := .object
    [("level", toJson s.level), ("format", toJson s.format), ("structured", toJson s.structured)]

instance : ToJson SchedulerSettings where
  toJson s := .object
    [("origin", toJson s.origin), ("request_timeout_ms", toJson s.requestTimeout)]

instance : ToJson CallEntry where
  toJson e := .object [("call", toJson e.call), ("index", toJson e.index)]

instance : ToJson ChainSettings where
  toJson s := .object
    [("family", toJson s.family), ("network", toJson s.network),
     ("relay_chain", toJson s.relayChain), ("endpoint", toJson s.endpoint),
     ("para_id", toJson s.paraId), ("account_kind", toJson s.accountKind),
     ("default_asset", toJson s.defaultAsset), ("assets", toJson s.assets),
     ("instruction_weight", toJson s.instructionWeight), ("derivation", toJson s.derivation),
     ("call_indices", toJson s.callIndices), ("enabled", toJson s.enabled)]

instance : ToJson Settings where
  toJson s := .object
    [("chains", toJson s.chains), ("logging", toJson s.logging), ("sdk", toJson s.scheduler)]

open Document Members

instance : FromDocument LogFormat where
  read := variantOf
    [("json", .plain .json), ("pretty", .plain .pretty), ("compact", .plain .compact)]

instance : FromDocument LoggingSettings where
  read := recordOf <|
    (of LoggingSettings.mk).and (required "level") |>.and (required "format")
      |>.and (withDefault "structured" false)

instance : FromDocument SchedulerSettings where
  read := recordOf <|
    (of SchedulerSettings.mk).and (withDefault "origin" none)
      |>.and (withDefault "request_timeout_ms" 30000)

instance : FromDocument CallEntry where
  read := recordOf <| (of CallEntry.mk).and (required "call") |>.and (required "index")

instance : FromDocument ChainSettings where
  read := recordOf <|
    (of ChainSettings.mk).and (required "family") |>.and (required "network")
      |>.and (withDefault "relay_chain" "") |>.and (required "endpoint")
      |>.and (withDefault "para_id" none) |>.and (withDefault "account_kind" .id32)
      |>.and (required "default_asset") |>.and (withDefault "assets" [])
      |>.and (required "instruction_weight") |>.and (withDefault "derivation" none)
      |>.and (withDefault "call_indices" []) |>.and (withDefault "enabled" true)

instance : FromDocument Settings where
  read := recordOf <|
    (of Settings.mk).and (withDefault "chains" .empty) |>.and (withDefault "logging" default)
      |>.and (withDefault "sdk" default)

end XcmTasks

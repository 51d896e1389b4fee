import XcmTasks.Account
import XcmTasks.Asset
import XcmTasks.Call
import XcmTasks.Derivation
import XcmTasks.Text.Alphanumeric
import XcmTasks.Weight

/-!
Chains as they are configured. A valid chain has a usable key and an endpoint, a default asset that
is its own currency, symbols that differ in more than their case, and instructions that weigh
something.
-/

namespace XcmTasks

inductive ChainFamily where
  | oak
  | moonbeam
  | astar
  | mangata
deriving DecidableEq, Repr

def ChainFamily.text : ChainFamily → String
  | .oak => "oak"
  | .moonbeam => "moonbeam"
  | .astar => "astar"
  | .mangata => "mangata"

structure Chain where
  key : String
  family : ChainFamily
  network : String
  relayChain : String
  endpoint : String
  paraId : Option UInt32
  accountKind : AccountKind
  defaultAsset : Asset
  assets : List Asset
  instructionWeight : Weight
  derivation : Option Derivation
  callIndices : CallIndices
deriving DecidableEq, Repr

inductive ChainError where
  | missingField (field : String)
  | invalidKey (key : String)
  | foreignDefaultAsset (key symbol : String)
  | duplicateAsset (key symbol : String)
  | zeroInstructionWeight (key : String)
deriving DecidableEq, Repr

def ChainError.message : ChainError → String
  | .missingField field => "Missing required field: " ++ field
  | .invalidKey key => "Invalid chain key: " ++ key
  | .foreignDefaultAsset key symbol =>
    "Default asset " ++ symbol ++ " of chain " ++ key ++ " is not native to it"
  | .duplicateAsset key symbol => "Duplicate asset symbol " ++ symbol ++ " on chain " ++ key
  | .zeroInstructionWeight key => "Instruction weight of chain " ++ key ++ " must not be zero"

def ChainError.kind : ChainError → String
  | .missingField _ => "MissingRequiredField"
  | .invalidKey _ => "InvalidKey"
  | .foreignDefaultAsset _ _ => "ForeignDefaultAsset"
  | .duplicateAsset _ _ => "DuplicateAsset"
  | .zeroInstructionWeight _ => "ZeroInstructionWeight"

namespace Chain

def location? (chain : Chain) : Option Location := chain.paraId.map Location.siblingParachain

def ownView (chain : Chain) (l : Location) : Location :=
  match chain.paraId with
  | some paraId => l.relativeTo paraId
  | none => l

/-- Whether the location is that of the chain's own currency, in the chain's own view. -/
def isNativeLocation (chain : Chain) (l : Location) : Bool :=
  chain.ownView l == chain.ownView chain.defaultAsset.location

def allAssets (chain : Chain) : List Asset := chain.defaultAsset :: chain.assets

/-- The first asset with that symbol, whatever the case of its ASCII letters. -/
def findAsset? (chain : Chain) (symbol : String) : Option Asset :=
  chain.allAssets.find? fun asset => Text.eqIgnoringCase asset.symbol symbol

def isKeyChar (c : Char) : Bool := Text.isAlphanumeric c || c == '-' || c == '_'

/-- The first asset whose symbol in lower case is among those seen before it. -/
def repeated? : List String → List Asset → Option Asset
  | _, [] => none
  | seen, asset :: assets =>
    let symbol := Text.lowercase asset.symbol
    if seen.contains symbol then some asset else repeated? (symbol :: seen) assets

def validate (chain : Chain) : Except ChainError Unit :=
  if chain.key = "" then .error (.missingField "key")
  else if !chain.key.toList.all isKeyChar then .error (.invalidKey chain.key)
  else if chain.endpoint = "" then .error (.missingField "endpoint")
  else if !chain.defaultAsset.isNative ||
      (chain.ownView chain.defaultAsset.location).parents != 0 then
    .error (.foreignDefaultAsset chain.key chain.defaultAsset.symbol)
  else
    match repeated? [] chain.allAssets with
    | some asset => .error (.duplicateAsset chain.key asset.symbol)
    | none =>
      if chain.instructionWeight.isZero then .error (.zeroInstructionWeight chain.key)
      else .ok ()

end Chain

/-! ### JSON -/

instance : ToJson ChainFamily := ⟨fun family => .text family.text⟩

instance : FromDocument ChainFamily where
  read := Document.variantOf
    [("oak", .plain .oak), ("moonbeam", .plain .moonbeam), ("astar", .plain .astar),
     ("mangata", .plain .mangata)]

instance : ToJson Chain where
  toJson chain := .object
    [("key", toJson chain.key), ("family", toJson chain.family),
     ("network", toJson chain.network), ("relay_chain", toJson chain.relayChain),
     ("endpoint", toJson chain.endpoint), ("para_id", toJson chain.paraId),
     ("account_kind", toJson chain.accountKind), ("default_asset", toJson chain.defaultAsset),
     ("assets", toJson chain.assets), ("instruction_weight", toJson chain.instructionWeight),
     ("derivation", toJson chain.derivation), ("call_indices", toJson chain.callIndices)]

open Document Members in
instance : FromDocument Chain where
  read := recordOf <|
    (of Chain.mk).and (required "key") |>.and (required "family") |>.and (required "network")
      |>.and (required "relay_chain") |>.and (required "endpoint")
      |>.and (withDefault "para_id" none) |>.and (withDefault "account_kind" .id32)
      |>.and (required "default_asset") |>.and (withDefault "assets" [])
      |>.and (required "instruction_weight") |>.and (withDefault "derivation" none)
      |>.and (withDefault "call_indices" .empty)

end XcmTasks

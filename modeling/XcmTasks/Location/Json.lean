import XcmTasks.Location.Basic

/-!
Locations in JSON and as text for people. Hashes, accounts and general keys are texts of hexadecimal
digits, and of a general key only the bytes that count are written.
-/

namespace XcmTasks

open Document Members

/-! ### Byte strings -/

def readHex (manner : Manner) (document : Document) : Reading Bytes := do
  match Hex.decode (← string manner document) with
  | .ok bytes => return bytes
  | .error e => .error (.refused e.message)

def hexJson (bytes : Bytes) : Json := .text (Hex.encode bytes)

instance {n : Nat} : ToJson (FixedBytes n) := ⟨fun a => hexJson a.toList⟩

instance {n : Nat} : FromDocument (FixedBytes n) where
  read manner document := do
    let bytes ← readHex manner document
    match FixedBytes.ofList? n bytes with
    | some a => return a
    | none =>
      .error (.refused
        ("expected " ++ toString n ++ " bytes, got " ++ toString bytes.length))

/-! ### Parts of a location -/

instance : ToJson NetworkId where
  toJson
    | .byGenesis hash => .object [("by_genesis", toJson hash)]
    | .byFork block hash =>
      .object [("by_fork", .object [("block_number", toJson block), ("block_hash", toJson hash)])]
    | .polkadot => .text "polkadot"
    | .kusama => .text "kusama"
    | .westend => .text "westend"
    | .rococo => .text "rococo"
    | .wococo => .text "wococo"
    | .ethereum chainId => .object [("ethereum", .object [("chain_id", toJson chainId)])]
    | .bitcoinCore => .text "bitcoin_core"
    | .bitcoinCash => .text "bitcoin_cash"

instance : FromDocument NetworkId where
  read := variantOf
    [("by_genesis", .carrying fun m d => .byGenesis <$> read m d),
     ("by_fork", .carrying <| recordOf <|
        (of NetworkId.byFork).and (required "block_number") |>.and (required "block_hash")),
     ("polkadot", .plain .polkadot),
     ("kusama", .plain .kusama),
     ("westend", .plain .westend),
     ("rococo", .plain .rococo),
     ("wococo", .plain .wococo),
     ("ethereum", .carrying <| recordOf <| (of NetworkId.ethereum).and (required "chain_id")),
     ("bitcoin_core", .plain .bitcoinCore),
     ("bitcoin_cash", .plain .bitcoinCash)]

instance : ToJson GeneralKey := ⟨fun key => hexJson key.bytes⟩

instance : FromDocument GeneralKey where
  read manner document := do
    let bytes ← readHex manner document
    match GeneralKey.ofBytes? bytes with
    | some key => return key
    | none => .error (.refused ("general key too long: " ++ toString bytes.length ++ " bytes"))

instance : ToJson Junction where
  toJson
    | .parachain id => .object [("parachain", toJson id)]
    | .accountId32 network id =>
      .object [("account_id32", .object [("network", toJson network), ("id", toJson id)])]
    | .accountIndex64 network index =>
      .object [("account_index64", .object [("network", toJson network), ("index", toJson index)])]
    | .accountKey20 network key =>
      .object [("account_key20", .object [("network", toJson network), ("key", toJson key)])]
    | .palletInstance index => .object [("pallet_instance", toJson index)]
    | .generalIndex index => .object [("general_index", toJson index)]
    | .generalKey key => .object [("general_key", toJson key)]
    | .onlyChild => .text "only_child"
    | .globalConsensus network => .object [("global_consensus", toJson network)]

instance : FromDocument Junction where
  read := variantOf
    [("parachain", .carrying fun m d => .parachain <$> read m d),
     ("account_id32", .carrying <| recordOf <|
        (of Junction.accountId32).and (withDefault "network" none) |>.and (required "id")),
     ("account_index64", .carrying <| recordOf <|
        (of Junction.accountIndex64).and (withDefault "network" none) |>.and (required "index")),
     ("account_key20", .carrying <| recordOf <|
        (of Junction.accountKey20).and (withDefault "network" none) |>.and (required "key")),
     ("pallet_instance", .carrying fun m d => .palletInstance <$> read m d),
     ("general_index", .carrying fun m d => .generalIndex <$> read m d),
     ("general_key", .carrying fun m d => .generalKey <$> read m d),
     ("only_child", .plain .onlyChild),
     ("global_consensus", .carrying fun m d => .globalConsensus <$> read m d)]

instance : ToJson Junctions := ⟨fun path => toJson path.toList⟩

/-- All junctions are read before they are counted. -/
instance : FromDocument Junctions where
  read manner document := do
    match Junctions.ofList (← listOf read manner document) with
    | .ok path => return path
    | .error e => .error (.refused e.message)

instance : ToJson Location where
  toJson l := .object [("parents", toJson l.parents), ("interior", toJson l.interior)]

instance : FromDocument Location where
  read := recordOf <|
    (of Location.mk).and (required "parents") |>.and (withDefault "interior" Junctions.here)

instance : ToJson VersionedLocation where
  toJson
    | .v3 l => .object [("v3", toJson l)]

instance : FromDocument VersionedLocation where
  read := variantOf [("v3", .carrying fun m d => .v3 <$> read m d)]

/-! ### Text for people -/

def describeBytes (bytes : Bytes) : String :=
  "[" ++ String.intercalate ", " (bytes.map fun b => toString b.toNat) ++ "]"

def describeRecord (name : String) (values : List (String × String)) : String :=
  name ++ " \x7b " ++ String.intercalate ", " (values.map fun v => v.1 ++ ": " ++ v.2) ++ " \x7d"

def NetworkId.describe : NetworkId → String
  | .byGenesis hash => "ByGenesis(" ++ describeBytes hash.toList ++ ")"
  | .byFork block hash =>
    describeRecord "ByFork"
      [("block_number", toString block.toNat), ("block_hash", describeBytes hash.toList)]
  | .polkadot => "Polkadot"
  | .kusama => "Kusama"
  | .westend => "Westend"
  | .rococo => "Rococo"
  | .wococo => "Wococo"
  | .ethereum chainId => describeRecord "Ethereum" [("chain_id", toString chainId.toNat)]
  | .bitcoinCore => "BitcoinCore"
  | .bitcoinCash => "BitcoinCash"

def describeNetwork : Option NetworkId → String
  | none => "None"
  | some network => "Some(" ++ network.describe ++ ")"

def GeneralKey.describe (key : GeneralKey) : String := "GeneralKey(" ++ Hex.encode key.bytes ++ ")"

def Junction.describe : Junction → String
  | .parachain id => "Parachain(" ++ toString id.toNat ++ ")"
  | .accountId32 network id =>
    describeRecord "AccountId32"
      [("network", describeNetwork network), ("id", describeBytes id.toList)]
  | .accountIndex64 network index =>
    describeRecord "AccountIndex64"
      [("network", describeNetwork network), ("index", toString index.toNat)]
  | .accountKey20 network key =>
    describeRecord "AccountKey20"
      [("network", describeNetwork network), ("key", describeBytes key.toList)]
  | .palletInstance index => "PalletInstance(" ++ toString index.toNat ++ ")"
  | .generalIndex index => "GeneralIndex(" ++ toString index.toNat ++ ")"
  | .generalKey key => "GeneralKey(" ++ key.describe ++ ")"
  | .onlyChild => "OnlyChild"
  | .globalConsensus network => "GlobalConsensus(" ++ network.describe ++ ")"

def Location.describe (l : Location) : String :=
  "(" ++ toString l.parents.toNat ++ ", ["
    ++ String.intercalate ", " (l.interior.toList.map Junction.describe) ++ "])"

end XcmTasks

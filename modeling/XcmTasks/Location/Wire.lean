import XcmTasks.Location.Basic

/-! The binary form of locations and their parts. -/

namespace XcmTasks

instance : Scale NetworkId where
  encode
    | .byGenesis hash => 0 :: encode hash
    | .byFork number hash => 1 :: encode number ++ encode hash
    | .polkadot => [2]
    | .kusama => [3]
    | .westend => [4]
    | .rococo => [5]
    | .wococo => [6]
    | .ethereum chainId => 7 :: Compact.encode64 chainId
    | .bitcoinCore => [8]
    | .bitcoinCash => [9]
  decode := do
    match ← Decoder.byte with
    | 0 => return .byGenesis (← decode)
    | 1 =>
      let number ← decode
      let hash ← decode
      return .byFork number hash
    | 2 => return .polkadot
    | 3 => return .kusama
    | 4 => return .westend
    | 5 => return .rococo
    | 6 => return .wococo
    | 7 => return .ethereum (← Compact.decode64)
    | 8 => return .bitcoinCore
    | 9 => return .bitcoinCash
    | _ => Decoder.fail

/-- The length and all 32 bytes, those that do not count among them. -/
instance : Scale GeneralKey where
  encode key := encode key.length ++ encode key.data
  decode := do
    let length ← decode
    let data ← decode
    return ⟨length, data⟩

instance : Scale Junction where
  encode
    | .parachain id => 0 :: Compact.encode32 id
    | .accountId32 network id => 1 :: encode network ++ encode id
    | .accountIndex64 network index => 2 :: encode network ++ Compact.encode64 index
    | .accountKey20 network key => 3 :: encode network ++ encode key
    | .palletInstance index => 4 :: encode index
    | .generalIndex index => 5 :: Compact.encode128 index
    | .generalKey key => 6 :: encode key
    | .onlyChild => [7]
    | .globalConsensus network => 9 :: encode network
  decode := do
    match ← Decoder.byte with
    | 0 => return .parachain (← Compact.decode32)
    | 1 =>
      let network ← decode
      let id ← decode
      return .accountId32 network id
    | 2 =>
      let network ← decode
      let index ← Compact.decode64
      return .accountIndex64 network index
    | 3 =>
      let network ← decode
      let key ← decode
      return .accountKey20 network key
    | 4 => return .palletInstance (← decode)
    | 5 => return .generalIndex (← Compact.decode128)
    | 6 => return .generalKey (← decode)
    | 7 => return .onlyChild
    | 9 => return .globalConsensus (← decode)
    | _ => Decoder.fail

/-- The number of junctions in one byte, then the junctions. -/
instance : Scale Junctions where
  encode path := UInt8.ofNat path.length :: path.toList.flatMap encode
  decode := do
    let count ← Decoder.byte
    if count.toNat ≤ maxJunctions then
      match Junctions.ofList (← Decoder.times decode count.toNat) with
      | .ok path => return path
      | .error _ => Decoder.fail
    else Decoder.fail

instance : Scale Location where
  encode l := encode l.parents ++ encode l.interior
  decode := do
    let parents ← decode
    let interior ← decode
    return ⟨parents, interior⟩

instance : Scale VersionedLocation where
  encode
    | .v3 l => 3 :: encode l
  decode := do
    match ← Decoder.byte with
    | 3 => return .v3 (← decode)
    | _ => Decoder.fail

end XcmTasks

import XcmTasks.Chain.Basic

/-! The chains of a local relay network, one of each family. -/

namespace XcmTasks.Chain

def localChain (key : String) (family : ChainFamily) (paraId : UInt32) (accountKind : AccountKind)
    (defaultAsset : Asset) (instructionWeight : Weight) : Chain where
  key := key
  family := family
  network := key
  relayChain := "local"
  endpoint := "ws://127.0.0.1:" ++ toString (9900 + paraId.toNat % 100)
  paraId := some paraId
  accountKind := accountKind
  defaultAsset := defaultAsset
  assets := []
  instructionWeight := instructionWeight
  derivation := none
  callIndices := .empty

def turing : Chain :=
  localChain "turing-local" .oak 2114 .id32 ⟨"TUR", 10, .siblingParachain 2114, true⟩
    ⟨1000000000, 0⟩

def moonbase : Chain :=
  localChain "moonbase-local" .moonbeam 1000 .key20
    ⟨"DEV", 18, ⟨1, ⟨[.parachain 1000, .palletInstance 3], by decide⟩⟩, true⟩ ⟨200000000, 2000⟩

def shibuya : Chain :=
  localChain "shibuya" .astar 2000 .id32 ⟨"SBY", 18, .siblingParachain 2000, true⟩
    ⟨1000000000, 65536⟩

/-- Four zero bytes name the currency. -/
def mangata : Chain :=
  localChain "mangata-local" .mangata 2110 .id32
    ⟨"MGX", 18,
      ⟨1, ⟨[.parachain 2110, .generalKey ⟨4, .zero⟩], by simp [maxJunctions]⟩⟩, true⟩
    ⟨150000000, 0⟩

end XcmTasks.Chain

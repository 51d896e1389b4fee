import XcmTasks.Hash.Blake2b
import XcmTasks.Hash.XxHash
import XcmTasks.Json.Reading
import XcmTasks.Scale.Compact
import XcmTasks.Text.Hex

/-!
Keys under which a chain stores its items: the digests of the pallet's and the item's name, and for
an entry of a map the digest of its key. A concatenating hasher puts the key itself behind its
digest, so that different keys never share an entry.
-/

namespace XcmTasks

open Hash

inductive StorageHasher where
  | blake2x128
  | blake2x256
  | blake2x128Concat
  | twox128
  | twox256
  | twox64Concat
  | identity
deriving DecidableEq, Repr

def StorageHasher.hash : StorageHasher → Bytes → Bytes
  | .blake2x128, data => (Blake2b.digest 16 data).toList
  | .blake2x256, data => (Blake2b.digest 32 data).toList
  | .blake2x128Concat, data => (Blake2b.digest 16 data).toList ++ data
  | .twox128, data => XxHash.concatenated 2 data
  | .twox256, data => XxHash.concatenated 4 data
  | .twox64Concat, data => XxHash.concatenated 1 data ++ data
  | .identity, data => data

instance : ToJson StorageHasher where
  toJson
    | .blake2x128 => .text "Blake2_128"
    | .blake2x256 => .text "Blake2_256"
    | .blake2x128Concat => .text "Blake2_128Concat"
    | .twox128 => .text "Twox128"
    | .twox256 => .text "Twox256"
    | .twox64Concat => .text "Twox64Concat"
    | .identity => .text "Identity"

instance : FromDocument StorageHasher where
  read := Document.variantOf
    [("Blake2_128", .plain .blake2x128),
     ("Blake2_256", .plain .blake2x256),
     ("Blake2_128Concat", .plain .blake2x128Concat),
     ("Twox128", .plain .twox128),
     ("Twox256", .plain .twox256),
     ("Twox64Concat", .plain .twox64Concat),
     ("Identity", .plain .identity)]

structure StorageKey where
  bytes : Bytes
deriving DecidableEq, Repr

namespace StorageKey

def plain (pallet item : String) : StorageKey :=
  ⟨XxHash.concatenated 2 (utf8 pallet) ++ XxHash.concatenated 2 (utf8 item)⟩

def entry (pallet item : String) (hasher : StorageHasher) (key : Bytes) : StorageKey :=
  ⟨(plain pallet item).bytes ++ hasher.hash key⟩

def text (key : StorageKey) : String := Hex.encode key.bytes

def describe (key : StorageKey) : String := "StorageKey(" ++ key.text ++ ")"

end StorageKey

end XcmTasks

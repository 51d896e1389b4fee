import XcmTasks.Bytes

/-! Words of 64 bits: turning them, and reading and writing them lowest byte first. -/

namespace XcmTasks.Hash

def rotateLeft (x : UInt64) (n : UInt64) : UInt64 := (x <<< n) ||| (x >>> (64 - n))

def rotateRight (x : UInt64) (n : UInt64) : UInt64 := (x >>> n) ||| (x <<< (64 - n))

def word64 (bytes : Bytes) : UInt64 := UInt64.ofNat (ofLittleEndian bytes)

def wordBytes (x : UInt64) : Bytes := littleEndian 8 x.toNat

/-- Cuts a byte string into pieces of `n + 1` bytes, the last of which may be shorter. -/
def chunks (n : Nat) : Nat → Bytes → List Bytes
  | 0, _ => []
  | _, [] => []
  | fuel + 1, bytes => bytes.take (n + 1) :: chunks n fuel (bytes.drop (n + 1))

def words (bytes : Bytes) : List UInt64 := (chunks 7 bytes.length bytes).map word64

end XcmTasks.Hash

import XcmTasks.Hash.Word

/-! BLAKE2b without a key: a state of eight words, mixed with blocks of 128 bytes. -/

namespace XcmTasks.Hash.Blake2b

def initialVector : Array UInt64 := #[
  0x6a09e667f3bcc908, 0xbb67ae8584caa73b, 0x3c6ef372fe94f82b, 0xa54ff53a5f1d36f1,
  0x510e527fade682d1, 0x9b05688c2b3e6c1f, 0x1f83d9abfb41bd6b, 0x5be0cd19137e2179]

/-- The order in which each round takes the words of a block. -/
def schedule : List (List Nat) := [
  [0, 1, 2, 3, 4, 5, 6, 7, 8, 9, 10, 11, 12, 13, 14, 15],
  [14, 10, 4, 8, 9, 15, 13, 6, 1, 12, 0, 2, 11, 7, 5, 3],
  [11, 8, 12, 0, 5, 2, 15, 13, 10, 14, 3, 6, 7, 1, 9, 4],
  [7, 9, 3, 1, 13, 12, 11, 14, 2, 6, 5, 10, 4, 0, 15, 8],
  [9, 0, 5, 7, 2, 4, 10, 15, 14, 1, 11, 12, 6, 8, 3, 13],
  [2, 12, 6, 10, 0, 11, 8, 3, 4, 13, 7, 5, 15, 14, 1, 9],
  [12, 5, 1, 15, 14, 13, 4, 10, 0, 7, 6, 3, 9, 2, 8, 11],
  [13, 11, 7, 14, 12, 1, 3, 9, 5, 0, 15, 4, 8, 6, 2, 10],
  [6, 15, 14, 9, 11, 3, 0, 8, 12, 2, 13, 7, 1, 4, 10, 5],
  [10, 2, 8, 4, 7, 6, 1, 5, 15, 11, 9, 14, 3, 12, 13, 0],
  [0, 1, 2, 3, 4, 5, 6, 7, 8, 9, 10, 11, 12, 13, 14, 15],
  [14, 10, 4, 8, 9, 15, 13, 6, 1, 12, 0, 2, 11, 7, 5, 3]]

def lanes : List (Nat × Nat × Nat × Nat) := [
  (0, 4, 8, 12), (1, 5, 9, 13), (2, 6, 10, 14), (3, 7, 11, 15),
  (0, 5, 10, 15), (1, 6, 11, 12), (2, 7, 8, 13), (3, 4, 9, 14)]

def word (v : Array UInt64) (i : Nat) : UInt64 := v.getD i 0

def mix (v : Array UInt64) (a b c d : Nat) (x y : UInt64) : Array UInt64 :=
  let va := word v a + word v b + x
  let vd := rotateRight (word v d ^^^ va) 32
  let vc := word v c + vd
  let vb := rotateRight (word v b ^^^ vc) 24
  let va := va + vb + y
  let vd := rotateRight (vd ^^^ va) 16
  let vc := vc + vd
  let vb := rotateRight (vb ^^^ vc) 63
  (((v.setIfInBounds a va).setIfInBounds b vb).setIfInBounds c vc).setIfInBounds d vd

def mixAll (block : Array UInt64) :
    Array UInt64 → List Nat → List (Nat × Nat × Nat × Nat) → Array UInt64
  | v, i :: j :: order, (a, b, c, d) :: rest =>
    mixAll block (mix v a b c d (word block i) (word block j)) order rest
  | v, _, _ => v

/-- Takes a block into the state; `count` bytes have been read with it. -/
def compress (state block : Array UInt64) (count : Nat) (last : Bool) : Array UInt64 :=
  let v := state ++ initialVector
  let v := v.setIfInBounds 12 (word v 12 ^^^ UInt64.ofNat count)
  let v := v.setIfInBounds 13 (word v 13 ^^^ UInt64.ofNat (count / UInt64.size))
  let v := if last then v.setIfInBounds 14 (~~~ word v 14) else v
  let v := schedule.foldl (fun v order => mixAll block v order lanes) v
  Array.ofFn fun i : Fin 8 => word state i ^^^ word v i ^^^ word v (i + 8)

def absorb : Array UInt64 → Nat → List Bytes → Array UInt64
  | state, _, [] => state
  | state, count, [block] =>
    let filled := block ++ List.replicate (128 - block.length) 0
    compress state (words filled).toArray (count + block.length) true
  | state, count, block :: blocks =>
    absorb (compress state (words block).toArray (count + 128) false) (count + 128) blocks

def digest (size : Nat) (data : Bytes) : FixedBytes size :=
  let start := initialVector.setIfInBounds 0
    (word initialVector 0 ^^^ (0x01010000 + UInt64.ofNat size))
  let blocks := if data.isEmpty then [[]] else chunks 127 data.length data
  .fit size ((absorb start 0 blocks).toList.flatMap wordBytes)

end XcmTasks.Hash.Blake2b

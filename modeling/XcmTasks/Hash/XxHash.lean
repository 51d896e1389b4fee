import XcmTasks.Hash.Word

/-! XXH64: four running words over blocks of 32 bytes, then the rest and a final mix. -/

namespace XcmTasks.Hash.XxHash

def prime1 : UInt64 := 0x9E3779B185EBCA87
def prime2 : UInt64 := 0xC2B2AE3D27D4EB4F
def prime3 : UInt64 := 0x165667B19E3779F9
def prime4 : UInt64 := 0x85EBCA77C2B2AE63
def prime5 : UInt64 := 0x27D4EB2F165667C5

def round (acc input : UInt64) : UInt64 := rotateLeft (acc + input * prime2) 31 * prime1

def mergeRound (acc value : UInt64) : UInt64 := (acc ^^^ round 0 value) * prime1 + prime4

structure Lanes where
  a : UInt64
  b : UInt64
  c : UInt64
  d : UInt64

def Lanes.absorb (l : Lanes) : List UInt64 → Lanes
  | w :: x :: y :: z :: _ => ⟨round l.a w, round l.b x, round l.c y, round l.d z⟩
  | _ => l

def Lanes.merge (l : Lanes) : UInt64 :=
  let h := rotateLeft l.a 1 + rotateLeft l.b 7 + rotateLeft l.c 12 + rotateLeft l.d 18
  mergeRound (mergeRound (mergeRound (mergeRound h l.a) l.b) l.c) l.d

def singleBytes : UInt64 → Bytes → UInt64
  | h, [] => h
  | h, b :: rest => singleBytes (rotateLeft (h ^^^ (b.toUInt64 * prime5)) 11 * prime1) rest

/-- Takes in what is left behind the blocks: words of eight bytes, then one of four, then bytes. -/
def remainder : Nat → UInt64 → Bytes → UInt64
  | 0, h, _ => h
  | fuel + 1, h, bytes =>
    if 8 ≤ bytes.length then
      let h := rotateLeft (h ^^^ round 0 (word64 (bytes.take 8))) 27 * prime1 + prime4
      remainder fuel h (bytes.drop 8)
    else if 4 ≤ bytes.length then
      let h := rotateLeft (h ^^^ (word64 (bytes.take 4) * prime1)) 23 * prime2 + prime3
      singleBytes h (bytes.drop 4)
    else singleBytes h bytes

def finish (h : UInt64) : UInt64 :=
  let h := (h ^^^ (h >>> 33)) * prime2
  let h := (h ^^^ (h >>> 29)) * prime3
  h ^^^ (h >>> 32)

def digest (seed : UInt64) (data : Bytes) : UInt64 :=
  let whole := data.length / 32 * 32
  let h :=
    if 32 ≤ data.length then
      let start : Lanes := ⟨seed + prime1 + prime2, seed + prime2, seed, seed - prime1⟩
      let blocks := chunks 31 data.length (data.take whole)
      (blocks.foldl (fun l block => l.absorb (words block)) start).merge
    else seed + prime5
  finish (remainder 5 (h + UInt64.ofNat data.length) (data.drop whole))

/-- Digests under the seeds `0`, `1`, … side by side. -/
def concatenated (n : Nat) (data : Bytes) : Bytes :=
  (List.range n).flatMap fun seed => wordBytes (digest (UInt64.ofNat seed) data)

end XcmTasks.Hash.XxHash

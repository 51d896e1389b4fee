import XcmTasks.Hash.Word

/-! Keccak-256: a sponge over 25 words that takes in 136 bytes at a time. -/

namespace XcmTasks.Hash.Keccak

def roundConstants : List UInt64 := [
  0x0000000000000001, 0x0000000000008082, 0x800000000000808A, 0x8000000080008000,
  0x000000000000808B, 0x0000000080000001, 0x8000000080008081, 0x8000000000008009,
  0x000000000000008A, 0x0000000000000088, 0x0000000080008009, 0x000000008000000A,
  0x000000008000808B, 0x800000000000008B, 0x8000000000008089, 0x8000000000008003,
  0x8000000000008002, 0x8000000000000080, 0x000000000000800A, 0x800000008000000A,
  0x8000000080008081, 0x8000000000008080, 0x0000000080000001, 0x8000000080008008]

/-- How far each word is turned; the word at column `x` and row `y` has the place `x + 5 * y`. -/
def offsets : Array UInt64 := #[
  0, 1, 62, 28, 27,
  36, 44, 6, 55, 20,
  3, 10, 43, 25, 39,
  41, 45, 15, 21, 8,
  18, 2, 61, 56, 14]

def wordAt (s : Array UInt64) (x y : Nat) : UInt64 := s.getD (x % 5 + 5 * (y % 5)) 0

def build (f : Nat → Nat → UInt64) : Array UInt64 :=
  Array.ofFn fun i : Fin 25 => f (i % 5) (i / 5)

def theta (s : Array UInt64) : Array UInt64 :=
  let parity := Array.ofFn fun x : Fin 5 =>
    wordAt s x 0 ^^^ wordAt s x 1 ^^^ wordAt s x 2 ^^^ wordAt s x 3 ^^^ wordAt s x 4
  let effect := Array.ofFn fun x : Fin 5 =>
    parity.getD ((x + 4) % 5) 0 ^^^ rotateLeft (parity.getD ((x + 1) % 5) 0) 1
  build fun x y => wordAt s x y ^^^ effect.getD x 0

def turn (x n : UInt64) : UInt64 := if n = 0 then x else rotateLeft x n

/-- Turns each word and moves it to another place. -/
def rhoPi (s : Array UInt64) : Array UInt64 :=
  build fun x y =>
    let x' := (x + 3 * y) % 5
    turn (wordAt s x' x) (offsets.getD (x' + 5 * x) 0)

def chi (s : Array UInt64) : Array UInt64 :=
  build fun x y => wordAt s x y ^^^ (~~~ (wordAt s (x + 1) y) &&& wordAt s (x + 2) y)

def step (s : Array UInt64) (constant : UInt64) : Array UInt64 :=
  let s := chi (rhoPi (theta s))
  s.setIfInBounds 0 (wordAt s 0 0 ^^^ constant)

def permute (s : Array UInt64) : Array UInt64 := roundConstants.foldl step s

def rate : Nat := 136

/-- A one behind the data, zeros, and a one in the last bit of the block. -/
def pad (data : Bytes) : Bytes :=
  let room := rate - data.length % rate
  if room = 1 then data ++ [0x81]
  else data ++ 0x01 :: List.replicate (room - 2) 0 ++ [0x80]

def absorb (s : Array UInt64) (block : Bytes) : Array UInt64 :=
  let input := (words block).toArray
  permute (Array.ofFn fun i : Fin 25 => s.getD i 0 ^^^ input.getD i 0)

def digest (data : Bytes) : FixedBytes 32 :=
  let padded := pad data
  let blocks := chunks (rate - 1) padded.length padded
  .fit 32 ((blocks.foldl absorb (Array.replicate 25 0)).toList.flatMap wordBytes)

end XcmTasks.Hash.Keccak

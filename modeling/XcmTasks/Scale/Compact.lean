import XcmTasks.Scale.Basic

/-!
Compact numbers: the two low bits of the first byte tell how many bytes the number takes. Only the
shortest form of a number is read.
-/

namespace XcmTasks.Compact

/-- How many bytes a number of at least one byte needs. -/
def byteCount (n : Nat) : Nat := n.log2 / 8 + 1

def encode (n : Nat) : Bytes :=
  if n < 64 then littleEndian 1 (4 * n)
  else if n < 16384 then littleEndian 2 (4 * n + 1)
  else if n < 1073741824 then littleEndian 4 (4 * n + 2)
  else UInt8.ofNat (4 * (byteCount n - 4) + 3) :: littleEndian (byteCount n) n

/-- Keeps a number that has no shorter form. -/
def canonical (lower n : Nat) : Decoder Nat :=
  if lower ≤ n then return n else Decoder.fail

def decode (width : Nat) : Decoder Nat := do
  let first ← Decoder.byte
  let six := first.toNat / 4
  match first.toNat % 4 with
  | 0 => return six
  | 1 => canonical (64) (six + 64 * (← Decoder.natural 1))
  | 2 => canonical (16384) (six + 64 * (← Decoder.natural 3))
  | _ =>
    if six + 4 ≤ width then
      canonical (max (1073741824) (Nat.pow 256 (six + 3))) (← Decoder.natural (six + 4))
    else Decoder.fail

def encode32 (n : UInt32) : Bytes := encode n.toNat
def encode64 (n : UInt64) : Bytes := encode n.toNat
def encode128 (n : UInt128) : Bytes := encode n.toNat

def decode32 : Decoder UInt32 := do return UInt32.ofNat (← decode 4)
def decode64 : Decoder UInt64 := do return UInt64.ofNat (← decode 8)
def decode128 : Decoder UInt128 := do return BitVec.ofNat 128 (← decode 16)

end XcmTasks.Compact

namespace XcmTasks

instance {α : Type} [Scale α] : Scale (List α) where
  encode as := Compact.encode as.length ++ as.flatMap encode
  decode := do Decoder.times decode (← Compact.decode 4)

instance : Scale String where
  encode s := encode (utf8 s)
  decode := do
    match ofUtf8? (← decode) with
    | some s => return s
    | none => Decoder.fail

end XcmTasks

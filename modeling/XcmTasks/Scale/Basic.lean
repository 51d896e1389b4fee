import XcmTasks.Bytes

/-!
The binary form of values on the wire. A decoder takes one value off the front of the bytes and
leaves the rest, so the forms of several values can stand one after another.
-/

namespace XcmTasks

/-- Takes a value off the front of a byte string, or finds none there. -/
abbrev Decoder := StateT Bytes Option

class Scale (α : Type) where
  encode : α → Bytes
  decode : Decoder α

export Scale (encode decode)

namespace Decoder

def fail {α : Type} : Decoder α := fun _ => none

/-- What messages say of bytes that hold no value. -/
def failureText : String := "<codec>"

def byte : Decoder UInt8
  | [] => none
  | b :: rest => some (b, rest)

def bytes : Nat → Decoder Bytes
  | 0, rest => some ([], rest)
  | _ + 1, [] => none
  | n + 1, b :: rest =>
    match bytes n rest with
    | some (bs, rest) => some (b :: bs, rest)
    | none => none

/-- A number of `k` bytes, lowest byte first. -/
def natural (k : Nat) : Decoder Nat := do
  let bs ← bytes k
  return ofLittleEndian bs

def fixedBytes (n : Nat) : Decoder (FixedBytes n) := do
  let bs ← bytes n
  match FixedBytes.ofList? n bs with
  | some block => return block
  | none => fail

/-- `n` values, one after another. -/
def times {α : Type} (item : Decoder α) : Nat → Decoder (List α)
  | 0 => return []
  | n + 1 => do
    let a ← item
    let as ← times item n
    return a :: as

end Decoder

/-- Decodes bytes that hold one value and nothing else behind it is looked at. -/
def decodeFront (α : Type) [Scale α] (bytes : Bytes) : Option α :=
  (decode bytes).map Prod.fst

instance : Scale UInt8 where
  encode b := [b]
  decode := Decoder.byte

instance : Scale UInt32 where
  encode n := littleEndian 4 n.toNat
  decode := do return UInt32.ofNat (← Decoder.natural 4)

instance : Scale UInt64 where
  encode n := littleEndian 8 n.toNat
  decode := do return UInt64.ofNat (← Decoder.natural 8)

instance : Scale UInt128 where
  encode n := littleEndian 16 n.toNat
  decode := do return BitVec.ofNat 128 (← Decoder.natural 16)

instance {n : Nat} : Scale (FixedBytes n) where
  encode a := a.toList
  decode := Decoder.fixedBytes n

instance : Scale Bool where
  encode b := if b then [1] else [0]
  decode := do
    match ← Decoder.byte with
    | 0 => return false
    | 1 => return true
    | _ => Decoder.fail

instance {α : Type} [Scale α] : Scale (Option α) where
  encode
    | none => [0]
    | some a => 1 :: encode a
  decode := do
    match ← Decoder.byte with
    | 0 => return none
    | 1 => return some (← decode)
    | _ => Decoder.fail

instance {α β : Type} [Scale α] [Scale β] : Scale (α × β) where
  encode p := encode p.1 ++ encode p.2
  decode := do
    let a ← decode
    let b ← decode
    return (a, b)

end XcmTasks

import XcmTasks.Bytes

/-! Byte strings as hexadecimal digits, written behind `0x` and read with or without it. -/

namespace XcmTasks

inductive HexError where
  | oddLength
  /-- The byte of the UTF-8 text that is no digit, and where it stands. -/
  | invalidCharacter (byte : UInt8) (position : Nat)
deriving DecidableEq, Repr

namespace Hex

def digit (n : Nat) : Char :=
  if n < 10 then Char.ofNat (48 + n) else Char.ofNat (87 + n)

def digitsOfByte (b : UInt8) : List Char := [digit (b.toNat / 16), digit (b.toNat % 16)]

def encodeChars (bytes : Bytes) : List Char := bytes.flatMap digitsOfByte

def encodeBare (bytes : Bytes) : String := String.ofList (encodeChars bytes)

/-- The digits behind `0x`. -/
def encode (bytes : Bytes) : String := "0x" ++ encodeBare bytes

def value? (b : UInt8) : Option UInt8 :=
  if 48 ≤ b && b ≤ 57 then some (b - 48)
  else if 65 ≤ b && b ≤ 70 then some (b - 55)
  else if 97 ≤ b && b ≤ 102 then some (b - 87)
  else none

def value (b : UInt8) (position : Nat) : Except HexError UInt8 :=
  match value? b with
  | some v => .ok v
  | none => .error (.invalidCharacter b position)

/-- Reads two digits at a time; the first digit stands at `position`. -/
def decodePairs : Nat → Bytes → Except HexError Bytes
  | _, [] => .ok []
  | _, [_] => .error .oddLength
  | position, a :: b :: rest => do
    let high ← value a position
    let low ← value b (position + 1)
    let bytes ← decodePairs (position + 2) rest
    return (high * 16 + low) :: bytes

/-- Reads digits alone. The length is looked at before any digit. -/
def decodeBare (digits : Bytes) : Except HexError Bytes :=
  if digits.length % 2 = 1 then .error .oddLength else decodePairs 0 digits

/-- The bytes of a text without one leading `0x`. -/
def dropMarker : Bytes → Bytes
  | 48 :: 120 :: rest => rest
  | digits => digits

/-- Reads digits with or without `0x`. -/
def decode (text : String) : Except HexError Bytes := decodeBare (dropMarker (utf8 text))

end Hex

/-- A character up to U+00FF between quotes, escaped where it does not print. -/
def quotedLatin (b : UInt8) : String :=
  let body :=
    if b = 0 then "\\0"
    else if b = 9 then "\\t"
    else if b = 10 then "\\n"
    else if b = 13 then "\\r"
    else if b = 39 then "\\'"
    else if b = 92 then "\\\\"
    else if (32 ≤ b && b < 127) || (161 ≤ b && b != 173) then String.singleton (Char.ofNat b.toNat)
    else "\\u\x7b" ++ String.ofList (Nat.toDigits 16 b.toNat) ++ "\x7d"
  "'" ++ body ++ "'"

def HexError.message : HexError → String
  | .oddLength => "Odd number of digits"
  | .invalidCharacter byte position =>
    "Invalid character " ++ quotedLatin byte ++ " at position " ++ toString position

end XcmTasks

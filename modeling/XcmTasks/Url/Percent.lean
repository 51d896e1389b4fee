import XcmTasks.Bytes
import XcmTasks.Text.Hex

/-! Percent-encoding: bytes that may not stand in a part of a URL are written as two digits behind a
percent sign. -/

namespace XcmTasks.Url

def upperHexDigit (n : Nat) : Char := if n < 10 then Char.ofNat (48 + n) else Char.ofNat (55 + n)

def percentByte (b : UInt8) : List Char :=
  ['%', upperHexDigit (b.toNat / 16), upperHexDigit (b.toNat % 16)]

/-- Encodes control characters, everything beyond ASCII, and the characters given. -/
def percentEncode (extra : List Char) (cs : List Char) : List Char :=
  cs.flatMap fun c =>
    if c.toNat < 32 || 127 ≤ c.toNat || extra.contains c then
      (utf8 (String.singleton c)).flatMap percentByte
    else [c]

/-- The bytes behind percent signs; a sign without two digits stands for itself. -/
def percentDecode : Bytes → Bytes
  | [] => []
  | [a] => [a]
  | [a, b] => [a, b]
  | a :: b :: c :: rest =>
    if a = 37 then
      match Hex.value? b, Hex.value? c with
      | some high, some low => (16 * high + low) :: percentDecode rest
      | _, _ => a :: percentDecode (b :: c :: rest)
    else a :: percentDecode (b :: c :: rest)

end XcmTasks.Url

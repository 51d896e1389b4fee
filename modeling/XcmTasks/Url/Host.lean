import XcmTasks.Url.Name
import XcmTasks.Url.Percent

/-!
Hosts in URLs: addresses of four or of sixteen bytes, and names. A name whose last part is a number
is an address of four bytes, in any of the old ways to write one.
-/

namespace XcmTasks

inductive UrlError where
  | emptyHost
  | invalidName
  | invalidPort
  | invalidIpv4
  | invalidIpv6
  | invalidDomainCharacter
  | relativeWithoutBase
deriving DecidableEq, Repr

def UrlError.message : UrlError → String
  | .emptyHost => "empty host"
  | .invalidName => "invalid international domain name"
  | .invalidPort => "invalid port number"
  | .invalidIpv4 => "invalid IPv4 address"
  | .invalidIpv6 => "invalid IPv6 address"
  | .invalidDomainCharacter => "invalid domain character"
  | .relativeWithoutBase => "relative URL without a base"

namespace Url

inductive Host where
  | name (cs : List Char)
  | ipv4 (address : Nat)
  | ipv6 (pieces : List Nat)
deriving DecidableEq, Repr

open Text

/-! ### Addresses of four bytes -/

def digitIn? (base : Nat) (c : Char) : Option Nat :=
  let n := c.toNat
  let d :=
    if 48 ≤ n && n ≤ 57 then n - 48
    else if 65 ≤ n && n ≤ 70 then n - 55
    else if 97 ≤ n && n ≤ 102 then n - 87
    else base
  if d < base then some d else none

def numberIn? (base : Nat) (cs : List Char) : Option Nat :=
  cs.foldlM (fun n c => (digitIn? base c).map (n * base + ·)) 0

/-- A number in decimal, or in octal behind a zero, or in hexadecimal behind `0x`. -/
def addressPart? : List Char → Option Nat
  | [] => none
  | '0' :: 'x' :: cs => numberIn? 16 cs
  | '0' :: 'X' :: cs => numberIn? 16 cs
  | '0' :: c :: cs => numberIn? 8 (c :: cs)
  | cs => numberIn? 10 cs

/-- The parts of a name, without an empty one at its end. -/
def addressParts (cs : List Char) : List (List Char) :=
  let parts := splitWhere (· = '.') cs
  if parts.getLast? = some [] then parts.dropLast else parts

def endsInNumber (cs : List Char) : Bool :=
  match (addressParts cs).getLast? with
  | some part => (!part.isEmpty && part.all Char.isDigit) || (addressPart? part).isSome
  | none => false

/-- Bytes with the last number filling up the rest of the address. -/
def ipv4? (cs : List Char) : Option Nat := do
  let parts := addressParts cs
  if 4 < parts.length then none
  let numbers ← parts.mapM addressPart?
  let last ← numbers.getLast?
  let bytes := numbers.dropLast
  if bytes.any (255 < ·) || Nat.pow 256 (4 - bytes.length) ≤ last then none
  return bytes.zipIdx.foldl (fun n b => n + b.1 * Nat.pow 256 (3 - b.2)) last

/-! ### Addresses of sixteen bytes -/

def dottedBytes? (cs : List Char) : Option (List Nat) :=
  let parts := splitWhere (· = '.') cs
  if parts.length != 4 then none
  else parts.mapM fun part =>
    let isPadded := part.head? = some '0' && part.length != 1
    if part.isEmpty || !part.all Char.isDigit || isPadded then none
    else
      match numberIn? 10 part with
      | some n => if n ≤ 255 then some n else none
      | none => none

/-- Pieces of two bytes between colons. The last two may be four bytes between dots. -/
def pieces? (cs : List Char) : Option (List Nat) :=
  if cs.isEmpty then some []
  else
    let parts := splitWhere (· = ':') cs
    let piece? := fun part : List Char =>
      if part.isEmpty || 4 < part.length then none else numberIn? 16 part
    match parts.getLast? with
    | none => none
    | some last =>
      if last.contains '.' then do
        let front ← parts.dropLast.mapM piece?
        match ← dottedBytes? last with
        | [a, b, c, d] => return front ++ [256 * a + b, 256 * c + d]
        | _ => none
      else parts.mapM piece?

def splitAtGap? : List Char → Option (List Char × List Char)
  | ':' :: ':' :: cs => some ([], cs)
  | c :: cs => (splitAtGap? cs).map fun (before, after) => (c :: before, after)
  | [] => none

/-- Eight pieces, or fewer with a gap that stands for at least one piece of zero. -/
def ipv6? (cs : List Char) : Option (List Nat) := do
  match splitAtGap? cs with
  | none =>
    let pieces ← pieces? cs
    if pieces.length = 8 then return pieces else none
  | some (before, after) =>
    if before.contains '.' then none
    let front ← pieces? before
    let back ← pieces? after
    if front.length + back.length ≤ 7 then
      return front ++ List.replicate (8 - front.length - back.length) 0 ++ back
    else none

/-! ### Reading and writing -/

def Host.ofText (cs : List Char) : Except UrlError Host :=
  match cs with
  | '[' :: rest =>
    if rest.getLast? = some ']' then
      match ipv6? rest.dropLast with
      | some pieces => .ok (.ipv6 pieces)
      | none => .error .invalidIpv6
    else .error .invalidIpv6
  | cs =>
    match ofUtf8? (percentDecode (utf8 (String.ofList cs))) >>= fun s => asciiName? s.toList with
    | none => .error .invalidName
    | some [] => .error .emptyHost
    | some ascii =>
      if endsInNumber ascii then
        match ipv4? ascii with
        | some address => .ok (.ipv4 address)
        | none => .error .invalidIpv4
      else .ok (.name ascii)

/-- Where the longest run of zeros starts and ends, if two or more stand together. -/
def longestGap (pieces : List Nat) : Nat × Nat :=
  let runs := (List.range 8).map fun i => (i, i + ((pieces.drop i).takeWhile (· = 0)).length)
  runs.foldl (fun best run => if best.2 - best.1 < run.2 - run.1 then run else best) (0, 1)

def hexText (n : Nat) : List Char := Nat.toDigits 16 n

def Host.text : Host → List Char
  | .name cs => cs
  | .ipv4 address =>
    joinWith '.' ([3, 2, 1, 0].map fun i => Nat.toDigits 10 (address / Nat.pow 256 i % 256))
  | .ipv6 pieces =>
    let (first, last) := longestGap pieces
    let inner :=
      if 2 ≤ last - first then
        joinWith ':' ((pieces.take first).map hexText) ++ [':', ':']
          ++ joinWith ':' ((pieces.drop last).map hexText)
      else joinWith ':' (pieces.map hexText)
    '[' :: inner ++ [']']

end Url

end XcmTasks

import XcmTasks.Text.Code

/-!
Punycode: names beyond ASCII written with ASCII letters and digits. The ASCII characters of a name
come first; then, in ascending order, where each other character has to be put in between.
-/

namespace XcmTasks.Url.Punycode

def digit (n : Nat) : Char := if n < 26 then Char.ofNat (97 + n) else Char.ofNat (22 + n)

def digitValue? (c : Char) : Option Nat :=
  let n := c.toNat
  if 97 ≤ n && n ≤ 122 then some (n - 97)
  else if 65 ≤ n && n ≤ 90 then some (n - 65)
  else if 48 ≤ n && n ≤ 57 then some (n - 22)
  else none

/-- Below which value a digit at place `k` is the last one of its number. -/
def threshold (k bias : Nat) : Nat := min 26 (max 1 (k - bias))

def digits (k bias n : Nat) : List Char :=
  let t := threshold k bias
  if n < t then [digit n]
  else digit (t + (n - t) % (36 - t)) :: digits (k + 36) bias ((n - t) / (36 - t))
termination_by n
decreasing_by
  have low : 1 ≤ threshold k bias := by unfold threshold; omega
  have : (n - threshold k bias) / (36 - threshold k bias) ≤ n - threshold k bias :=
    Nat.div_le_self _ _
  omega

def adaptLoop : Nat → Nat → Nat → Nat
  | 0, k, delta => k + 36 * delta / (delta + 38)
  | fuel + 1, k, delta =>
    if 455 < delta then adaptLoop fuel (k + 36) (delta / 35) else k + 36 * delta / (delta + 38)

/-- How the weights of the digits adapt to the numbers met so far. -/
def adapt (delta count : Nat) (isFirst : Bool) : Nat :=
  let delta := if isFirst then delta / 700 else delta / 2
  let delta := delta + delta / count
  adaptLoop delta 0 delta

structure State where
  delta : Nat
  bias : Nat
  handled : Nat
  written : List Char

def place (codes : List Nat) (basics m : Nat) (s : State) : State :=
  codes.foldl
    (fun s c =>
      if c < m then { s with delta := s.delta + 1 }
      else if c = m then
        { delta := 0
          bias := adapt s.delta (s.handled + 1) (s.handled == basics)
          handled := s.handled + 1
          written := s.written ++ digits 36 s.bias s.delta }
      else s)
    s

def encode (name : List Char) : List Char :=
  let codes := name.map Char.toNat
  let basics := name.filter fun c => c.toNat < 128
  let others := ((codes.filter (128 ≤ ·)).mergeSort (· ≤ ·)).eraseDups
  let start : State :=
    ⟨0, 72, basics.length, if basics.isEmpty then [] else basics ++ ['-']⟩
  let step := fun ((s, next) : State × Nat) m =>
    let s := place codes basics.length m { s with delta := s.delta + (m - next) * (s.handled + 1) }
    ({ s with delta := s.delta + 1 }, m + 1)
  (others.foldl step (start, 128)).1.written

/-- One number off the front of the digits, added to `n`, and the rest. No number and no weight
has more than 32 bits. -/
def number? (bias : Nat) : Nat → Nat → Nat → List Char → Option (Nat × List Char)
  | _, _, _, [] => none
  | k, weight, n, c :: rest => do
    let d ← digitValue? c
    let t := threshold k bias
    let n := n + d * weight
    if UInt32.size ≤ n || UInt32.size ≤ weight then none
    else if d < t then some (n, rest)
    else number? bias (k + 36) (weight * (36 - t)) n rest

/-- Puts characters in at the places that the digits tell, at most `fuel` of them. -/
def putIn : Nat → Nat → Nat → Nat → List Char → List Char → Option (List Char)
  | _, _, _, _, name, [] => some name
  | 0, _, _, _, _, _ => none
  | fuel + 1, code, index, bias, name, cs => do
    let (sum, rest) ← number? bias 36 1 index cs
    let count := name.length + 1
    let code := code + sum / count
    let place := sum % count
    let c ← Text.charOf? code
    putIn fuel code (place + 1) (adapt (sum - index) count (index == 0))
      (name.take place ++ c :: name.drop place) rest

/-- The name that is written so, if there is one. -/
def decode? (cs : List Char) : Option (List Char) :=
  let tail := (cs.reverse.takeWhile (· != '-')).reverse
  let basics := cs.take (cs.length - tail.length - 1)
  putIn tail.length 128 0 72 basics tail

end XcmTasks.Url.Punycode

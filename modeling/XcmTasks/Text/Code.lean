/-!
Codes of characters, written with digits to the base of sixteen in either case.
-/

namespace XcmTasks.Text

def hexValue? (c : Char) : Option Nat :=
  let n := c.toNat
  if 48 ≤ n && n ≤ 57 then some (n - 48)
  else if 65 ≤ n && n ≤ 70 then some (n - 55)
  else if 97 ≤ n && n ≤ 102 then some (n - 87)
  else none

def isHexDigit (c : Char) : Bool := (hexValue? c).isSome

/-- The number that digits to a base of at most sixteen stand for. -/
def numberOf? (base : Nat) (digits : List Char) : Option Nat :=
  digits.foldlM (fun n d => do
    let v ← hexValue? d
    if v < base then some (n * base + v) else none) 0

/-- The character with a code. Halves of surrogate pairs are no characters. -/
def charOf? (code : Nat) : Option Char :=
  if h : code.isValidChar then some (Char.ofNatAux code h) else none

/-- The code that exactly `count` digits at the front tell. -/
def codeAt? (count : Nat) (cs : List Char) : Option Nat :=
  let digits := cs.take count
  if digits.length = count then numberOf? 16 digits else none

def codedChar? (count : Nat) (cs : List Char) : Option Char := codeAt? count cs >>= charOf?

end XcmTasks.Text

/-!
Numbers with a fraction. A 64-bit floating-point number is kept as the shortest decimal that reads
back as it, and a decimal is written positionally while its point stands near its digits.
-/

namespace XcmTasks.Json

/-- The number `±digits · 10 ^ exponent`. -/
structure Decimal where
  negative : Bool
  digits : Nat
  exponent : Int
deriving DecidableEq, Repr

namespace Decimal

/-- The fraction `n / d` seen on the grid of step `10 ^ k`: the last grid point not above it. -/
def gridBelow (n d : Nat) (k : Int) : Nat :=
  if 0 ≤ k then n / (d * Nat.pow 10 k.toNat) else n * Nat.pow 10 (-k).toNat / d

def gridFraction (p : Nat) (k : Int) : Nat × Nat :=
  if 0 ≤ k then (p * Nat.pow 10 k.toNat, 1) else (p, Nat.pow 10 (-k).toNat)

/-- Whether `a ≤ b` holds, or `a < b` if ends do not count. -/
def within (ends : Bool) (a b : Nat × Nat) : Bool :=
  if ends then a.1 * b.2 ≤ b.1 * a.2 else a.1 * b.2 < b.1 * a.2

/-- The power of ten of the first digit of `n / d`, looked for downward from `k`. -/
def leadingPower (n d : Nat) : Nat → Int → Int
  | 0, k => k
  | fuel + 1, k => if gridBelow n d k = 0 then leadingPower n d fuel (k - 1) else k

/-- Of the grids of step `10 ^ k`, `10 ^ (k - 1)`, …, the first with a point between `low` and
`high`, and its point nearest to `n / d`. -/
def firstGrid (n d : Nat) (low high : Nat × Nat) (ends : Bool) : Nat → Int → Nat × Int
  | 0, k => (gridBelow n d k, k)
  | fuel + 1, k =>
    let p := gridBelow n d k
    let inside (q : Nat) : Bool :=
      within ends low (gridFraction q k) && within ends (gridFraction q k) high
    let (gn, gd) := gridFraction p k
    let (un, ud) := gridFraction (p + 1) k
    -- twice the fraction against the sum of its two neighbours
    let lowerIsNearer : Bool := 2 * n * (gd * ud) < d * (gn * ud + un * gd) ||
      (2 * n * (gd * ud) == d * (gn * ud + un * gd) && p % 2 == 0)
    if inside p && inside (p + 1) then (if lowerIsNearer then p else p + 1, k)
    else if inside p then (p, k)
    else if inside (p + 1) then (p + 1, k)
    else firstGrid n d low high ends fuel (k - 1)

def strip : Nat → Nat → Int → Nat × Int
  | 0, p, k => (p, k)
  | fuel + 1, p, k => if p % 10 = 0 ∧ p ≠ 0 then strip fuel (p / 10) (k + 1) else (p, k)

def binaryFraction (mantissa : Nat) (power : Int) : Nat × Nat :=
  if 0 ≤ power then (mantissa * Nat.pow 2 power.toNat, 1)
  else (mantissa, Nat.pow 2 (-power).toNat)

def fractionSize : Nat := 4503599627370496

/-- The shortest decimal that reads back as the floating-point number with these bits, the nearest
of those if there are several. -/
def ofBits (bits : Nat) : Decimal :=
  let negative := bits / (2048 * fractionSize) % 2 = 1
  let exponent := bits / fractionSize % 2048
  let fraction := bits % fractionSize
  let mantissa := if exponent = 0 then fraction else fraction + fractionSize
  let power : Int := (max exponent 1 : Nat) - 1075
  if mantissa = 0 then ⟨negative, 0, 0⟩
  else
    let (n, d) := binaryFraction mantissa power
    -- the neighbour below is nearer at a power of two
    let low :=
      if fraction = 0 ∧ 1 < exponent then binaryFraction (4 * mantissa - 1) (power - 2)
      else binaryFraction (2 * mantissa - 1) (power - 1)
    let high := binaryFraction (2 * mantissa + 1) (power - 1)
    let first := leadingPower n d 700 310
    let (p, k) := firstGrid n d low high (mantissa % 2 == 0) 20 (first + 1)
    let (p, k) := strip 400 p k
    ⟨negative, p, k⟩

def zeros (n : Nat) : List Char := List.replicate n '0'

def exponentChars (e : Int) : List Char :=
  'e' :: (if 0 ≤ e then '+' else '-') :: Nat.toDigits 10 e.natAbs

/-- Positional while the point stands at most sixteen places behind the first digit and at most
four before it, else with an exponent. A whole number keeps `.0`. -/
def chars (d : Decimal) : List Char :=
  let ds := Nat.toDigits 10 d.digits
  let point := (ds.length : Int) + d.exponent
  let body :=
    if d.digits = 0 then ['0', '.', '0']
    else if 0 ≤ d.exponent ∧ point ≤ 16 then ds ++ zeros d.exponent.toNat ++ ['.', '0']
    else if 0 < point ∧ point ≤ 16 then ds.take point.toNat ++ ['.'] ++ ds.drop point.toNat
    else if -5 < point ∧ point ≤ 0 then ['0', '.'] ++ zeros (-point).toNat ++ ds
    else
      let tail := exponentChars (point - 1)
      match ds with
      | [one] => one :: tail
      | first :: others => first :: '.' :: others ++ tail
      | [] => tail
  if d.negative then '-' :: body else body

def positionalChars (d : Decimal) : List Char :=
  let ds := Nat.toDigits 10 d.digits
  let point := (ds.length : Int) + d.exponent
  let body :=
    if d.digits = 0 then ['0']
    else if 0 ≤ d.exponent then ds ++ zeros d.exponent.toNat
    else if 0 < point then ds.take point.toNat ++ ['.'] ++ ds.drop point.toNat
    else ['0', '.'] ++ zeros (-point).toNat ++ ds
  if d.negative then '-' :: body else body

def fullChars (d : Decimal) : List Char :=
  let cs := d.positionalChars
  if cs.contains '.' then cs else cs ++ ['.', '0']

def floatChars (x : Float) : List Char :=
  if x.isNaN then "NaN".toList
  else if x.isInf then if x < 0 then "-inf".toList else "inf".toList
  else (ofBits x.toBits.toNat).fullChars

/-! ### Reading floating-point numbers -/

/-- The floating-point number nearest to `n · 10 ^ exponent`. Outside of what such numbers reach it
is zero or infinite. -/
def nearest (n : Nat) (exponent : Int) : Float :=
  let size : Int := (Nat.toDigits 10 n).length + exponent
  if n = 0 || size < -400 then 0
  else if 400 < size then Float.ofScientific 1 false 400
  else Float.ofScientific n (exponent < 0) exponent.natAbs

def digitsValue (ds : List Char) : Nat := ds.foldl (fun n d => n * 10 + (d.toNat - 48)) 0

/-- An unsigned number with digits before or behind a point, or on both sides, or without a point,
and perhaps an exponent. -/
def unsigned? (cs : List Char) : Option Float := do
  let whole := cs.takeWhile Char.isDigit
  let (fraction, cs) := match cs.dropWhile Char.isDigit with
    | '.' :: cs => (cs.takeWhile Char.isDigit, cs.dropWhile Char.isDigit)
    | cs => ([], cs)
  if whole.isEmpty && fraction.isEmpty then none
  let exponent : Int ← match cs with
    | [] => some 0
    | c :: cs =>
      let (isNegative, ds) := match cs with
        | '-' :: ds => (true, ds)
        | '+' :: ds => (false, ds)
        | ds => (false, ds)
      if (c != 'e' && c != 'E') || ds.isEmpty || !ds.all Char.isDigit then none
      else some (if isNegative then -(digitsValue ds : Int) else digitsValue ds)
  return nearest (digitsValue (whole ++ fraction)) (exponent - fraction.length)

/-- A number with or without a sign. Words for what is infinite or no number are read in letters of
any case. -/
def float? (cs : List Char) : Option Float := do
  let (isNegative, cs) := match cs with
    | '-' :: cs => (true, cs)
    | '+' :: cs => (false, cs)
    | cs => (false, cs)
  let word := cs.map Char.toLower
  let x ←
    if word = "inf".toList || word = "infinity".toList then some (Float.ofScientific 1 false 400)
    else if word = "nan".toList then some (0 / 0)
    else unsigned? cs
  return if isNegative then -x else x

end Decimal

end XcmTasks.Json

import XcmTasks.Bytes
import XcmTasks.Json.Decimal

/-!
Numbers and times in TOML. A whole number has 64 bits with its sign; one with a fraction is the
nearest floating-point number, written positionally in full.
-/

namespace XcmTasks.Toml

/-- The digits of a number, among which single underscores may stand. -/
def ungrouped? (isDigit : Char → Bool) : List Char → Option (List Char)
  | [] => none
  | [d] => if isDigit d then some [d] else none
  | d :: '_' :: ds =>
    if isDigit d then (ungrouped? isDigit ds).map (d :: ·) else none
  | d :: ds => if isDigit d then (ungrouped? isDigit ds).map (d :: ·) else none

def digitValue (c : Char) : Nat :=
  let n := c.toNat
  if n ≤ 57 then n - 48 else if n ≤ 70 then n - 55 else n - 87

def valueOf (base : Nat) (ds : List Char) : Nat :=
  ds.foldl (fun n d => n * base + digitValue d) 0

def wholeDigits? (cs : List Char) : Option (List Char) :=
  match ungrouped? Char.isDigit cs with
  | some ds => if ds.head? = some '0' && ds.length != 1 then none else some ds
  | none => none

def splitSign : List Char → Bool × List Char
  | '-' :: cs => (true, cs)
  | '+' :: cs => (false, cs)
  | cs => (false, cs)

def isHexDigit (c : Char) : Bool :=
  c.isDigit || ('a' ≤ c && c ≤ 'f') || ('A' ≤ c && c ≤ 'F')

/-- A whole number that fits, with a plain sign and no grouping. -/
def integer? (cs : List Char) : Option (List Char) :=
  let based := fun (base : Nat) isDigit cs => do
    let n := valueOf base (← ungrouped? isDigit cs)
    if n < signedSize then some (Nat.toDigits 10 n) else none
  match cs with
  | '0' :: 'x' :: ds => based 16 isHexDigit ds
  | '0' :: 'o' :: ds => based 8 (fun c => '0' ≤ c && c ≤ '7') ds
  | '0' :: 'b' :: ds => based 2 (fun c => c = '0' || c = '1') ds
  | cs => do
    let (isNegative, cs) := splitSign cs
    let n := valueOf 10 (← wholeDigits? cs)
    if isNegative then
      if n ≤ signedSize then some (if n = 0 then ['0'] else '-' :: Nat.toDigits 10 n) else none
    else if n < signedSize then some (Nat.toDigits 10 n) else none

/-- An unsigned number with a fraction, an exponent, or both. -/
def decimal? (cs : List Char) : Option Float := do
  let isExponent := fun c : Char => c = 'e' || c = 'E'
  let mantissa := cs.takeWhile fun c => !isExponent c
  let whole ← wholeDigits? (mantissa.takeWhile (· != '.'))
  let fraction ← match mantissa.dropWhile (· != '.') with
    | '.' :: ds => ungrouped? Char.isDigit ds
    | _ => some []
  let exponent : Int ← match cs.dropWhile fun c => !isExponent c with
    | _ :: ds =>
      let (isNegative, ds) := splitSign ds
      (ungrouped? Char.isDigit ds).map fun ds =>
        if isNegative then -(valueOf 10 ds : Int) else valueOf 10 ds
    | [] => some 0
  if fraction.isEmpty && !cs.any isExponent then none
  else
    some (Json.Decimal.nearest (valueOf 10 (whole ++ fraction)) (exponent - fraction.length))

/-- A number that is too large is refused, one that is too far below zero is infinite. -/
def float? (cs : List Char) : Option (List Char) :=
  let (isNegative, cs) := splitSign cs
  if cs = "inf".toList then some (if isNegative then "-inf".toList else cs)
  else if cs = "nan".toList then some "NaN".toList
  else
    match decimal? cs with
    | none => none
    | some x =>
      if x.isInf && !isNegative then none
      else some (Json.Decimal.floatChars (if isNegative then -x else x))

/-! ### Dates and times -/

def digits? (count : Nat) (cs : List Char) : Option (Nat × List Char) :=
  let ds := cs.take count
  if ds.length = count && ds.all Char.isDigit then some (valueOf 10 ds, cs.drop count) else none

def sign? (c : Char) : List Char → Option (List Char)
  | d :: cs => if c = d then some cs else none
  | [] => none

def daysIn (year month : Nat) : Nat :=
  if month = 2 then
    if year % 4 = 0 && (year % 100 != 0 || year % 400 = 0) then 29 else 28
  else if [4, 6, 9, 11].contains month then 30
  else 31

def date? (cs : List Char) : Option (List Char × List Char) := do
  let (year, rest) ← digits? 4 cs
  let (month, rest) ← digits? 2 (← sign? '-' rest)
  let (day, rest) ← digits? 2 (← sign? '-' rest)
  if 1 ≤ month && month ≤ 12 && 1 ≤ day && day ≤ daysIn year month then
    some (cs.take 10, rest)
  else none

/-- A time off the front, as it is written up to nanoseconds, without zeros at its end. -/
def time? (lastHour : Nat) (cs : List Char) : Option (List Char × List Char) := do
  let (hour, rest) ← digits? 2 cs
  let (minute, rest) ← digits? 2 (← sign? ':' rest)
  let (second, rest) ← digits? 2 (← sign? ':' rest)
  if hour ≤ lastHour && minute ≤ 59 && second ≤ 60 then
    match rest with
    | '.' :: more =>
      let ds := more.takeWhile Char.isDigit
      if ds.isEmpty then none
      let kept := ((ds.take 9).reverse.dropWhile (· = '0')).reverse
      some (cs.take 8 ++ (if kept.isEmpty then [] else '.' :: kept), more.dropWhile Char.isDigit)
    | _ => some (cs.take 8, rest)
  else none

def twoDigits (n : Nat) : List Char :=
  let ds := Nat.toDigits 10 n
  if ds.length < 2 then '0' :: ds else ds

/-- How far a time is from the reference time, at most a day. No distance has no sign of its own. -/
def offset? (lastHour lastMinute : Nat) : List Char → Option (List Char)
  | [] => some []
  | ['Z'] => some ['Z']
  | ['z'] => some ['Z']
  | c :: cs => do
    if c != '+' && c != '-' then none
    let (hour, rest) ← digits? 2 cs
    let (minute, rest) ← digits? 2 (← sign? ':' rest)
    let minutes := 60 * hour + minute
    if hour ≤ lastHour && minute ≤ lastMinute && minutes ≤ 1440 && rest.isEmpty then
      let c := if minutes = 0 then '+' else c
      some (c :: twoDigits (minutes / 60) ++ ':' :: twoDigits (minutes % 60))
    else none

def isTimeMark (c : Char) : Bool := c = 'T' || c = 't' || c = ' '

def moment? (cs : List Char) : Option (List Char) :=
  match date? cs with
  | some (date, []) => some date
  | some (date, c :: rest) =>
    if isTimeMark c then do
      let (time, rest) ← time? 23 rest
      return date ++ 'T' :: time ++ (← offset? 23 59 rest)
    else none
  | none =>
    match time? 23 cs with
    | some (time, []) => some time
    | _ => none

/-- The moment that a text tells. Here an hour may be the twenty-fourth, and a date alone may have a
distance from the reference time, which may be told in more minutes than an hour has. -/
def momentOfText? (cs : List Char) : Option (List Char) :=
  if cs[2]? = some ':' then
    match time? 24 cs with
    | some (time, []) => some time
    | _ => none
  else do
    let (date, rest) ← date? cs
    match rest with
    | [] => return date
    | c :: more =>
      if isTimeMark c then
        let (time, rest) ← time? 24 more
        return date ++ 'T' :: time ++ (← offset? 99 99 rest)
      else return date ++ (← offset? 99 99 rest)

end XcmTasks.Toml

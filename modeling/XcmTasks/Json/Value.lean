import XcmTasks.Json.Reading

/-!
Whole JSON values read from a document. A whole number of 64 bits is kept as it is; any other number
becomes the floating-point number that its first digits, scaled by one power of ten, come to. The
members of an object are put into ascending order, and the last of equal names counts.
-/

namespace XcmTasks.Json

open Document

/-- Digits gathered into a word of 64 bits, and the digits from the first that does not fit. -/
def gather : Nat → List Char → Nat × List Char
  | significand, [] => (significand, [])
  | significand, d :: ds =>
    let next := significand * 10 + digitValue d
    if next < UInt64.size then gather next ds else (significand, d :: ds)

def powerOfTen (n : Nat) : Float := Float.ofScientific 1 false n

/-- Scales by powers of ten of at most 308 at a time; nothing if the number is too large. -/
def scale : Nat → Float → Int → Option Float
  | 0, x, _ => some x
  | fuel + 1, x, exponent =>
    if exponent.natAbs ≤ 308 then
      if 0 ≤ exponent then
        let y := x * powerOfTen exponent.natAbs
        if y.isInf then none else some y
      else some (x / powerOfTen exponent.natAbs)
    else if x == 0 then some x
    else if 0 ≤ exponent then none
    else scale fuel (x / powerOfTen 308) (exponent + 308)

/-- The floating-point number of an unsigned decimal with these digits before and after the point
and this exponent. -/
def floating? (whole fraction : List Char) (exponent : Int) : Option Float :=
  let (significand, left) := gather 0 whole
  let (significand, unread) := gather significand fraction
  let exponent := exponent + left.length - (fraction.length - unread.length : Nat)
  let limit : Int := 2147483648
  if limit ≤ exponent.natAbs then
    if significand = 0 || exponent < 0 then some 0 else none
  else scale 8 (UInt64.ofNat significand).toFloat exponent

def Number.ofLexeme? (lexeme : List Char) : Option Number :=
  let (isNegative, cs) := match lexeme with
    | '-' :: cs => (true, cs)
    | cs => (false, cs)
  let whole := cs.takeWhile Char.isDigit
  let cs := cs.dropWhile Char.isDigit
  let n := naturalOf whole
  if cs.isEmpty && !isNegative && n < UInt64.size then some (.natural n)
  else if cs.isEmpty && isNegative && n != 0 && n ≤ signedSize then some (.negative (n - 1))
  else
    let (fraction, cs) := match cs with
      | '.' :: cs => (cs.takeWhile Char.isDigit, cs.dropWhile Char.isDigit)
      | cs => ([], cs)
    let exponent : Int := match cs with
      | _ :: '-' :: ds => -(naturalOf ds : Int)
      | _ :: '+' :: ds => naturalOf ds
      | _ :: ds => naturalOf ds
      | [] => 0
    (floating? whole fraction exponent).map fun x =>
      let d := Decimal.ofBits x.toBits.toNat
      .decimal ⟨isNegative, d.digits, d.exponent⟩

mutual

def ofDocument : Document → Reading Json
  | .broken => .error .malformed
  | .buried _ => .error .malformed
  | .null => .ok .null
  | .bool b => .ok (.bool b)
  | .number lexeme =>
    match Number.ofLexeme? lexeme with
    | some n => .ok (.number n)
    | none => .error .malformed
  | .text (some s) => .ok (.text s)
  | .text none => .error .malformed
  | .list items closed => do
    let values ← ofItems items
    if closed then return .list values else .error .malformed
  | .object members closed => do
    let values ← ofMembers members
    if closed then return sortedObject values else .error .malformed

def ofItems : List Document → Reading (List Json)
  | [] => .ok []
  | item :: items => do
    let value ← ofDocument item
    return value :: (← ofItems items)

def ofMembers : List (Option String × Document) → Reading (List (String × Json))
  | [] => .ok []
  | (none, _) :: _ => .error .malformed
  | (some key, item) :: members => do
    let value ← ofDocument item
    return (key, value) :: (← ofMembers members)

end

end XcmTasks.Json

namespace XcmTasks

instance : FromDocument Json := ⟨fun _ document => Json.ofDocument document⟩

instance : ToJson Json := ⟨id⟩

end XcmTasks

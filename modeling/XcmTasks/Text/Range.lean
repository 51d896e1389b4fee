/-! Sets of characters as ascending lists of ranges, and their written form. -/

namespace XcmTasks.Text

/-- Whether a code stands in one of the ranges, which are in ascending order. -/
def inRanges : List (Nat × Nat) → Nat → Bool
  | [], _ => false
  | (first, last) :: ranges, n =>
    if n < first then false else if n ≤ last then true else inRanges ranges n

/-! ### Written tables -/

/-- The parts of a text between the characters that end one, at least one part. -/
def splitWhere (isEnd : Char → Bool) : List Char → List (List Char)
  | [] => [[]]
  | c :: cs =>
    if isEnd c then [] :: splitWhere isEnd cs
    else
      match splitWhere isEnd cs with
      | [] => [[c]]
      | part :: parts => (c :: part) :: parts

def codeOf (cs : List Char) : Nat :=
  cs.foldl (fun n c => n * 16 + (if c.toNat < 58 then c.toNat - 48 else c.toNat - 55)) 0

/-- A code alone, or the first and the last one of a range with a hyphen between. -/
def rangeOf (cs : List Char) : Nat × Nat :=
  match splitWhere (· = '-') cs with
  | [first, last] => (codeOf first, codeOf last)
  | _ => (codeOf cs, codeOf cs)

def wordsOf (lines : List String) : List (List Char) :=
  lines.flatMap fun line => splitWhere (· = ' ') line.toList

def rangesOf (lines : List String) : List (Nat × Nat) := (wordsOf lines).map rangeOf

/-- The characters of a range stand for those with these codes; in a range of several, each next
one for the next code. -/
structure Replacement where
  first : Nat
  last : Nat
  codes : List Nat
deriving DecidableEq, Repr

def replacementOf (cs : List Char) : Replacement :=
  let (first, last) := rangeOf (cs.takeWhile (· != ':'))
  ⟨first, last, (splitWhere (· = '.') ((cs.dropWhile (· != ':')).drop 1)).map codeOf⟩

def replacementsOf (lines : List String) : List Replacement := (wordsOf lines).map replacementOf

/-- What a code stands for, if it is replaced. The ranges are in ascending order. -/
def replacement? : List Replacement → Nat → Option (List Nat)
  | [], _ => none
  | r :: rs, n =>
    if n < r.first then none
    else if n ≤ r.last then some (r.codes.map (· + (n - r.first)))
    else replacement? rs n

end XcmTasks.Text

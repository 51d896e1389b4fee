import XcmTasks.Scale.Compact
import XcmTasks.Json.Reading

/-!
Weights: what running a call costs, in picoseconds of computation and in bytes of storage proof.
Weights are ordered component by component, so two of them may be incomparable.
-/

namespace XcmTasks

def refTimePerSecond : Nat := 1000000000000

structure Weight where
  refTime : UInt64
  proofSize : UInt64
deriving DecidableEq, Repr, Inhabited

def word64? (n : Nat) : Option UInt64 := if n < UInt64.size then some (UInt64.ofNat n) else none

def clamp64 (n : Nat) : UInt64 := UInt64.ofNat (min n (UInt64.size - 1))

namespace Weight

def zero : Weight := ⟨0, 0⟩

def isZero (w : Weight) : Bool := w.refTime == 0 && w.proofSize == 0

/-- The sum, if both components fit. -/
def checkedAdd (a b : Weight) : Option Weight := do
  let refTime ← word64? (a.refTime.toNat + b.refTime.toNat)
  let proofSize ← word64? (a.proofSize.toNat + b.proofSize.toNat)
  return ⟨refTime, proofSize⟩

def checkedMul (a : Weight) (scalar : UInt64) : Option Weight := do
  let refTime ← word64? (a.refTime.toNat * scalar.toNat)
  let proofSize ← word64? (a.proofSize.toNat * scalar.toNat)
  return ⟨refTime, proofSize⟩

def saturatingAdd (a b : Weight) : Weight :=
  ⟨clamp64 (a.refTime.toNat + b.refTime.toNat), clamp64 (a.proofSize.toNat + b.proofSize.toNat)⟩

def saturatingMul (a : Weight) (scalar : UInt64) : Weight :=
  ⟨clamp64 (a.refTime.toNat * scalar.toNat), clamp64 (a.proofSize.toNat * scalar.toNat)⟩

instance : Add Weight := ⟨saturatingAdd⟩
instance : HMul Weight UInt64 Weight := ⟨saturatingMul⟩

/-- No component exceeds the other weight's. -/
def allLte (a b : Weight) : Bool := a.refTime ≤ b.refTime && a.proofSize ≤ b.proofSize

def anyGt (a b : Weight) : Bool := !allLte a b

/-- The order of two weights, if their components do not disagree about it. -/
def compare? (a b : Weight) : Option Ordering :=
  match compare a.refTime b.refTime, compare a.proofSize b.proofSize with
  | .eq, o => some o
  | o, .eq => some o
  | .lt, .lt => some .lt
  | .gt, .gt => some .gt
  | _, _ => none

def describe (w : Weight) : String :=
  "\x7b ref_time: " ++ toString w.refTime.toNat ++ ", proof_size: " ++ toString w.proofSize.toNat
    ++ " \x7d"

instance : Scale Weight where
  encode w := Compact.encode64 w.refTime ++ Compact.encode64 w.proofSize
  decode := do
    let refTime ← Compact.decode64
    let proofSize ← Compact.decode64
    return ⟨refTime, proofSize⟩

instance : ToJson Weight where
  toJson w := .object [("ref_time", toJson w.refTime), ("proof_size", toJson w.proofSize)]

open Document Members in
instance : FromDocument Weight where
  read := recordOf <| (of Weight.mk).and (one "ref_time" ["refTime"] none read)
    |>.and (one "proof_size" ["proofSize"] none read)

end Weight

end XcmTasks

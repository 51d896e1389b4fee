import XcmTasks.Scale.Compact
import XcmTasks.Json.Reading
import XcmTasks.Text.Hex

/-!
Calls. A call names a pallet and a function and carries its arguments encoded; the two index bytes
that stand for the names on a chain come from its configuration.
-/

namespace XcmTasks

structure Call where
  pallet : String
  function : String
  args : Bytes
deriving DecidableEq, Repr

namespace Call

def new (pallet function : String) : Call := ⟨pallet, function, []⟩

def arg {α : Type} [Scale α] (call : Call) (value : α) : Call :=
  { call with args := call.args ++ encode value }

/-- The call with more arguments that are encoded already. -/
def rawArg (call : Call) (bytes : Bytes) : Call := { call with args := call.args ++ bytes }

def isOf (call : Call) (pallet function : String) : Bool :=
  call.pallet == pallet && call.function == function

def name (call : Call) : String := call.pallet ++ "." ++ call.function

def describe (call : Call) : String := call.name ++ "(" ++ Hex.encode call.args ++ ")"

end Call

/-- The bytes that stand for a pallet and one of its functions. -/
structure CallIndex where
  pallet : UInt8
  call : UInt8
deriving DecidableEq, Repr

/-- Call indices under `Pallet.function`. -/
abbrev CallIndices := Table CallIndex

namespace CallIndices

/-- The text under which the index of a function is kept. -/
def key (pallet function : String) : String := pallet ++ "." ++ function

def insert (indices : CallIndices) (pallet function : String) (index : CallIndex) : CallIndices :=
  Table.insert indices (key pallet function) index

def get? (indices : CallIndices) (pallet function : String) : Option CallIndex :=
  Table.get? indices (key pallet function)

/-- The two index bytes, then the arguments. -/
def encodeCall? (indices : CallIndices) (call : Call) : Option Bytes := do
  let index ← get? indices call.pallet call.function
  return index.pallet :: index.call :: call.args

end CallIndices

instance : ToJson CallIndex := ⟨fun index => .list [toJson index.pallet, toJson index.call]⟩

/-- A list of two bytes. -/
instance : FromDocument CallIndex where
  read manner
    | .list (pallet :: call :: others) closed => do
      let pallet ← read manner pallet
      let call ← read manner call
      if closed && (others.isEmpty || manner == .lenient) then return ⟨pallet, call⟩
      else .error .malformed
    | _ => .error .malformed

end XcmTasks

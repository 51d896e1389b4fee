import XcmTasks.Scale.Compact
import XcmTasks.Json.Reading
import XcmTasks.Text.Hex

/-!
Locations: a number of steps up from where one stands, then a path of at most eight junctions down.
Two locations are equal when all their parts are.
-/

namespace XcmTasks

def maxJunctions : Nat := 8

/-- The consensus systems outside the relay chain's own. -/
inductive NetworkId where
  | byGenesis (hash : FixedBytes 32)
  | byFork (blockNumber : UInt64) (blockHash : FixedBytes 32)
  | polkadot
  | kusama
  | westend
  | rococo
  | wococo
  | ethereum (chainId : UInt64)
  | bitcoinCore
  | bitcoinCash
deriving DecidableEq, Repr

/-- A key of up to 32 bytes, with how many of them count. -/
structure GeneralKey where
  length : UInt8
  data : FixedBytes 32
deriving DecidableEq, Repr

inductive Junction where
  | parachain (id : UInt32)
  | accountId32 (network : Option NetworkId) (id : FixedBytes 32)
  | accountIndex64 (network : Option NetworkId) (index : UInt64)
  | accountKey20 (network : Option NetworkId) (key : FixedBytes 20)
  | palletInstance (index : UInt8)
  | generalIndex (index : UInt128)
  | generalKey (key : GeneralKey)
  | onlyChild
  | globalConsensus (network : NetworkId)
deriving DecidableEq, Repr

/-- A path of junctions from the top down. -/
structure Junctions where
  toList : List Junction
  length_le : toList.length ≤ maxJunctions
deriving DecidableEq, Repr

structure Location where
  parents : UInt8
  interior : Junctions
deriving DecidableEq, Repr

inductive VersionedLocation where
  | v3 (location : Location)
deriving DecidableEq, Repr

structure TooManyJunctions where
  count : Nat
deriving DecidableEq, Repr

def TooManyJunctions.message (e : TooManyJunctions) : String :=
  "Too many junctions: " ++ toString e.count ++ " (maximum " ++ toString maxJunctions ++ ")"

namespace GeneralKey

def ofBytes? (bytes : Bytes) : Option GeneralKey :=
  if bytes.length ≤ 32 then some ⟨UInt8.ofNat bytes.length, FixedBytes.fit 32 bytes⟩ else none

def bytes (key : GeneralKey) : Bytes := key.data.toList.take key.length.toNat

end GeneralKey

namespace Junctions

def here : Junctions := ⟨[], by decide⟩

def length (path : Junctions) : Nat := path.toList.length

def isEmpty (path : Junctions) : Bool := path.toList.isEmpty

def first? (path : Junctions) : Option Junction := path.toList.head?

def ofList (junctions : List Junction) : Except TooManyJunctions Junctions :=
  if h : junctions.length ≤ maxJunctions then .ok ⟨junctions, h⟩
  else .error ⟨junctions.length⟩

def push (path : Junctions) (junction : Junction) : Except TooManyJunctions Junctions :=
  ofList (path.toList ++ [junction])

/-- Puts a junction at the end of a path in place. A full path stays as it is. -/
def add (path : Junctions) (junction : Junction) : Except TooManyJunctions Unit × Junctions :=
  match path.push junction with
  | .ok longer => (.ok (), longer)
  | .error e => (.error e, path)

def tail (path : Junctions) : Junctions :=
  ⟨path.toList.tail, by have := path.length_le; simp only [List.length_tail]; omega⟩

def one (junction : Junction) : Junctions := ⟨[junction], by simp [maxJunctions]⟩

instance : Inhabited Junctions := ⟨here⟩

end Junctions

namespace Location

def new (parents : UInt8) (interior : List Junction) : Except TooManyJunctions Location := do
  return ⟨parents, ← Junctions.ofList interior⟩

def here : Location := ⟨0, .here⟩

instance : Inhabited Location := ⟨here⟩

def siblingParachain (paraId : UInt32) : Location := ⟨1, .one (.parachain paraId)⟩

def isHere (l : Location) : Bool := l.parents == 0 && l.interior.isEmpty

/-- The parachain that a location one step up goes through first. -/
def paraId? (l : Location) : Option UInt32 :=
  if l.parents = 1 then
    match l.interior.first? with
    | some (.parachain id) => some id
    | _ => none
  else none

/-- The same place seen from parachain `paraId`: a path through that sibling begins there. -/
def relativeTo (l : Location) (paraId : UInt32) : Location :=
  if l.paraId? = some paraId then ⟨0, l.interior.tail⟩ else l

def push (l : Location) (junction : Junction) : Except TooManyJunctions Location := do
  return ⟨l.parents, ← l.interior.push junction⟩

theorem push_here (junction : Junction) : here.push junction = .ok ⟨0, .one junction⟩ := rfl

def versioned (l : Location) : VersionedLocation := .v3 l

end Location

end XcmTasks

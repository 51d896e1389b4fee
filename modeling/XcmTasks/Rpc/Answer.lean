import XcmTasks.Rpc.Message
import XcmTasks.Scale.Basic
import XcmTasks.Text.Hex

/-!
What the results of requests mean. Bytes come as hexadecimal digits; whatever else comes in their
place is no valid response, and digits that hold no value of the kind do not decode.
-/

namespace XcmTasks.Rpc.Answer

def hexBytes (what : String) (text : String) : Except NodeError Bytes :=
  (Hex.decode text).mapError fun e => .undecodable what e.message

def binary (α : Type) [Scale α] (what : String) : Json → Except NodeError α
  | .text s => do
    let bytes ← hexBytes what s
    match decodeFront α bytes with
    | some a => return a
    | none => throw (.undecodable what Decoder.failureText)
  | _ => .error (.invalidResponse (what ++ " is not a hex string"))

/-- The genesis hash that a node answers. -/
def genesisHash : Json → Except NodeError (FixedBytes 32)
  | .text s => do
    match FixedBytes.ofList? 32 (← hexBytes "genesis hash" s) with
    | some hash => return hash
    | none => throw (.invalidResponse "genesis hash is not 32 bytes")
  | _ => .error (.invalidResponse "genesis hash is not a string")

structure RuntimeVersion where
  specVersion : UInt32
  transactionVersion : UInt32
deriving DecidableEq, Repr

open Document Members in
instance : FromDocument RuntimeVersion where
  read := recordOf <|
    (of RuntimeVersion.mk).and (required "specVersion") |>.and (required "transactionVersion")

def runtimeVersion (answer : Json) : Except NodeError RuntimeVersion :=
  (readText answer.render).mapError fun _ => .invalidResponse "runtime version"

def storageValue : Json → Except NodeError (Option Bytes)
  | .null => .ok none
  | .text s => some <$> hexBytes "storage value" s
  | other => .error (.invalidResponse ("unexpected storage value " ++ other.render))

def extrinsicHash : Json → Except NodeError String
  | .text s => .ok s
  | _ => .error (.invalidResponse "extrinsic hash is not a string")

end XcmTasks.Rpc.Answer

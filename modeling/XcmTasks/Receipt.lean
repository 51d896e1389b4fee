import XcmTasks.Json.Value
import XcmTasks.Text.LetterCase

/-!
Receipts of submitted extrinsics and the events that a chain deposited for them. A receipt without
events says nothing about how the extrinsic fared.
-/

namespace XcmTasks

structure ChainEvent where
  /-- The name of the pallet, in camel case. -/
  pallet : String
  method : String
  data : Json
deriving Repr

inductive SubmissionStatus where
  | submitted
  | inBlock (blockHash : String)
  | finalized (blockHash : String)
deriving DecidableEq, Repr

structure Receipt where
  extrinsicHash : String
  status : SubmissionStatus
  events : List ChainEvent
deriving Repr

/-- Sections are compared without regard to the case of ASCII letters, methods exactly. -/
def ChainEvent.isOf (event : ChainEvent) (pallet method : String) : Bool :=
  Text.eqIgnoringCase event.pallet pallet && event.method == method

namespace Receipt

def submitted (extrinsicHash : String) : Receipt := ⟨extrinsicHash, .submitted, []⟩

def findEvent? (receipt : Receipt) (pallet method : String) : Option ChainEvent :=
  receipt.events.find? fun event => event.isOf pallet method

def isFinalized (receipt : Receipt) : Bool :=
  match receipt.status with
  | .finalized _ => true
  | _ => false

/-- The first of two members that is there. -/
def member? (data : Json) (name other : String) : Option Json :=
  (data.get? name).or (data.get? other)

/-- The id of the task that the extrinsic scheduled, if an event tells it. -/
def taskId? (receipt : Receipt) : Option String := do
  let event ← receipt.findEvent? "automationTime" "TaskScheduled"
  match ← member? event.data "taskId" "task_id" with
  | .text id => some id
  | .number id => some (String.ofList id.chars)
  | _ => none

/-- The section and name of an error, looked up under `module` if there is such a member. An error
without both is one of the section `system` whose name is its JSON text. -/
def errorName (error : Json) : String × String :=
  let origin := (error.get? "module").getD error
  match origin.get? "section" >>= Json.text?, origin.get? "name" >>= Json.text? with
  | some pallet, some name => (pallet, name)
  | _, _ => ("system", error.render)

/-- The error that the extrinsic failed with on the chain, if it did. -/
def dispatchError? (receipt : Receipt) : Option (String × String) := do
  let event ← receipt.findEvent? "system" "ExtrinsicFailed"
  return errorName ((member? event.data "dispatchError" "dispatch_error").getD .null)

end Receipt

/-! ### JSON -/

instance : ToJson ChainEvent where
  toJson event := .object
    [("section", toJson event.pallet), ("method", toJson event.method), ("data", event.data)]

instance : ToJson SubmissionStatus where
  toJson
    | .submitted => .object [("status", .text "submitted")]
    | .inBlock hash => .object [("status", .text "in_block"), ("block_hash", .text hash)]
    | .finalized hash => .object [("status", .text "finalized"), ("block_hash", .text hash)]

instance : ToJson Receipt where
  toJson receipt := .object
    [("extrinsic_hash", toJson receipt.extrinsicHash), ("status", toJson receipt.status),
     ("events", toJson receipt.events)]

open Document Members

instance : FromDocument ChainEvent where
  read := recordOf <|
    (of ChainEvent.mk).and (required "section") |>.and (required "method")
      |>.and (withDefault "data" Json.null)

namespace SubmissionStatus

/-- The kinds of status: one without a block, and two with its hash. -/
inductive Kind where
  | submitted
  | inBlock
  | finalized

def kinds : List (String × Kind) :=
  [("submitted", .submitted), ("in_block", .inBlock), ("finalized", .finalized)]

def readKind : Document → Reading Kind
  | .text (some name) =>
    match kinds.lookup name with
    | some kind => .ok kind
    | none => .error (.unknownVariant name (kinds.map Prod.fst))
  | _ => .error .malformed

def splitKind :
    Option Kind → List (Option String × Document) →
      Reading (Option Kind × List (Option String × Document))
  | kind, [] => .ok (kind, [])
  | _, (none, _) :: _ => .error .malformed
  | kind, (some key, document) :: others =>
    if key = "status" then
      match kind with
      | some _ => .error (.duplicateMember "status")
      | none => do splitKind (some (← readKind document)) others
    else do
      let _ ← Json.ofDocument document
      let (kind, rest) ← splitKind kind others
      return (kind, (some key, document) :: rest)

def ofKind (manner : Manner) (kind : Kind) (members : Document) : Reading SubmissionStatus :=
  let hash : Reading String := recordOf ((of id).and (required "block_hash")) manner members
  match kind with
  | .submitted => .ok .submitted
  | .inBlock => .inBlock <$> hash
  | .finalized => .finalized <$> hash

end SubmissionStatus

open SubmissionStatus in
instance : FromDocument SubmissionStatus where
  read manner
    | .object members closed => do
      let (kind, others) ← splitKind none members
      if !closed then throw .malformed
      match kind with
      | none => throw (.missingMember "status")
      | some kind => ofKind manner kind (.object others true)
    | .list [] true => .error (.missingMember "status")
    | .list (first :: others) closed => do
      let kind ← readKind first
      let _ ← Json.ofItems others
      if !closed then throw .malformed
      match kind, others with
      | .submitted, _ :: _ => throw .malformed
      | _, _ => ofKind manner kind (.list others true)
    | _ => .error .malformed

instance : FromDocument Receipt where
  read := recordOf <|
    (of Receipt.mk).and (required "extrinsic_hash") |>.and (required "status")
      |>.and (withDefault "events" [])

end XcmTasks

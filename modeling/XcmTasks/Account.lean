import XcmTasks.Location.Json

/-!
Accounts. Most chains name an account by a public key of 32 bytes, others by one of 20. An account
is written in hexadecimal digits, and on the wire as its bytes alone.
-/

namespace XcmTasks

/-- The width of the accounts of a chain. -/
inductive AccountKind where
  | id32
  | key20
deriving DecidableEq, Repr, Inhabited

inductive AccountId where
  | id32 (id : FixedBytes 32)
  | key20 (key : FixedBytes 20)
deriving DecidableEq, Repr

inductive AccountError where
  | invalidHex (cause : HexError)
  | invalidLength (length : Nat)
deriving DecidableEq, Repr

def AccountError.message : AccountError → String
  | .invalidHex cause => "Invalid hex in account: " ++ cause.message
  | .invalidLength length =>
    "Invalid account length: " ++ toString length ++ " bytes (expected 20 or 32)"

namespace AccountId

def bytes : AccountId → Bytes
  | .id32 id => id.toList
  | .key20 key => key.toList

def kind : AccountId → AccountKind
  | .id32 _ => .id32
  | .key20 _ => .key20

def junction : AccountId → Junction
  | .id32 id => .accountId32 none id
  | .key20 key => .accountKey20 none key

/-- The account of that width whose bytes come first in a longer byte string. -/
def ofFront (kind : AccountKind) (bytes : Bytes) : AccountId :=
  match kind with
  | .id32 => .id32 (.fit 32 bytes)
  | .key20 => .key20 (.fit 20 bytes)

/-- The account that parachain `paraId` itself has on another parachain: the letters `sibl` and the
number of the parachain, filled up with zeros. -/
def siblingSovereign (paraId : UInt32) (kind : AccountKind) : AccountId :=
  ofFront kind (utf8 "sibl" ++ littleEndian 4 paraId.toNat)

def ofBytes (bytes : Bytes) : Except AccountError AccountId :=
  if h : bytes.length = 32 then .ok (.id32 ⟨bytes, h⟩)
  else if h : bytes.length = 20 then .ok (.key20 ⟨bytes, h⟩)
  else .error (.invalidLength bytes.length)

theorem ofBytes_bytes (account : AccountId) : ofBytes account.bytes = .ok account := by
  cases account with
  | id32 id =>
    have hl : id.toList.length = 32 := id.length_toList
    simp [ofBytes, bytes, hl]
  | key20 key =>
    have hl : key.toList.length = 20 := key.length_toList
    simp [ofBytes, bytes, hl]

def parse (text : String) : Except AccountError AccountId :=
  match Hex.decode (Text.trim text) with
  | .ok bytes => ofBytes bytes
  | .error e => .error (.invalidHex e)

def text (account : AccountId) : String := Hex.encode account.bytes

def describe (account : AccountId) : String := "AccountId(" ++ account.text ++ ")"

end AccountId

instance : ToJson AccountKind where
  toJson
    | .id32 => .text "id32"
    | .key20 => .text "key20"

instance : FromDocument AccountKind where
  read := Document.variantOf [("id32", .plain .id32), ("key20", .plain .key20)]

instance : ToJson AccountId := ⟨fun account => .text account.text⟩

instance : FromDocument AccountId where
  read manner document := do
    match AccountId.parse (← Document.string manner document) with
    | .ok account => return account
    | .error e => .error (.refused e.message)

end XcmTasks

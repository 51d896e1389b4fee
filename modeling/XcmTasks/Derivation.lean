import XcmTasks.Account
import XcmTasks.Hash.Blake2b
import XcmTasks.Hash.Keccak

/-!
Derivative accounts. An account of another parachain acts on a chain through an account that is the
digest of its description there: a label, the number of the parachain, and the account.
-/

namespace XcmTasks

open Hash

inductive DerivationHasher where
  | blake2
  | keccak
deriving DecidableEq, Repr, Inhabited

def DerivationHasher.hash : DerivationHasher → Bytes → FixedBytes 32
  | .blake2, data => Blake2b.digest 32 data
  | .keccak, data => Keccak.digest data

/-- How a chain derives accounts for accounts of its siblings. -/
structure Derivation where
  label : String
  hasher : DerivationHasher
deriving DecidableEq, Repr

namespace Derivation

def defaultLabel : String := "SiblingChain"

instance : Inhabited Derivation := ⟨⟨defaultLabel, .blake2⟩⟩

def accountPart : AccountId → Bytes
  | .id32 id => utf8 "AccountId32" ++ id.toList
  | .key20 key => utf8 "AccountKey20" ++ key.toList

def description (d : Derivation) (account : AccountId) (paraId : UInt32) : Bytes :=
  utf8 d.label ++ Compact.encode32 paraId ++ encode (accountPart account)

/-- The account of the given width that `account` of parachain `paraId` acts through. -/
def derive (d : Derivation) (account : AccountId) (paraId : UInt32) (kind : AccountKind) :
    AccountId :=
  AccountId.ofFront kind (d.hasher.hash (d.description account paraId)).toList

end Derivation

instance : ToJson DerivationHasher where
  toJson
    | .blake2 => .text "blake2_256"
    | .keccak => .text "keccak256"

instance : FromDocument DerivationHasher where
  read := Document.variantOf [("blake2_256", .plain .blake2), ("keccak256", .plain .keccak)]

instance : ToJson Derivation where
  toJson d := .object [("prefix", toJson d.label), ("hasher", toJson d.hasher)]

open Document Members in
instance : FromDocument Derivation where
  read := recordOf <|
    (of Derivation.mk).and (withDefault "prefix" Derivation.defaultLabel)
      |>.and (withDefault "hasher" .blake2)

end XcmTasks

import XcmTasks.Proofs.Location.Keys
import XcmTasks.Proofs.Telling

/-!
What the text of a location for people tells: as much as its JSON text does, which is the location
with trimmed keys.
-/

namespace XcmTasks

/-! ### Networks -/

namespace NetworkId

def variant : NetworkId → String
  | .byGenesis _ => "ByGenesis"
  | .byFork _ _ => "ByFork"
  | .ethereum _ => "Ethereum"
  | network => network.describe

def contents : NetworkId → String
  | .byGenesis hash => "(" ++ describeBytes hash.toList ++ ")"
  | .byFork block hash =>
    describeRecord ""
      [("block_number", toString block.toNat), ("block_hash", describeBytes hash.toList)]
  | .ethereum chainId => describeRecord "" [("chain_id", toString chainId.toNat)]
  | _ => ""

theorem describe_eq (network : NetworkId) :
    network.describe = network.variant ++ network.contents := by
  cases network with
  | byGenesis hash => exact tuple_eq (by simp [variant]) _
  | byFork => exact describeRecord_eq _ _
  | ethereum => exact describeRecord_eq _ _
  | _ => exact String.append_empty.symm

theorem tells : Tells describe id := by
  have word : Tells (fun n : UInt64 => toString n.toNat) id :=
    tells_toNat fun _ _ => UInt64.toNat.inj
  refine tells_variants describe_eq ?_ ?_ ?_
  · intro network
    cases network <;> simp [variant, describe]
  · intro network
    cases network <;> simp [contents, Breaks, describeRecord]
  · intro a b r s names same hr hs
    cases a with
    | byGenesis hash =>
      cases b with
      | byGenesis hash' =>
        obtain ⟨told, rest⟩ := closed_fixedBytes.tells.tuple same
        exact ⟨congrArg byGenesis told, rest⟩
      | _ => simp [variant, describe] at names
    | byFork block hash =>
      cases b with
      | byFork block' hash' =>
        have fields := word.fields (closed_fixedBytes (n := 32)).tells ""
          "block_number" "block_hash"
        obtain ⟨told, rest⟩ := @fields (block, hash) (block', hash') r s same
        cases told
        exact ⟨rfl, rest⟩
      | _ => simp [variant, describe] at names
    | ethereum chainId =>
      cases b with
      | ethereum chainId' =>
        obtain ⟨told, rest⟩ := word.field "" "chain_id" same
        exact ⟨congrArg ethereum told, rest⟩
      | _ => simp [variant, describe] at names
    | _ =>
      cases b <;> first
        | exact ⟨rfl, by simpa [contents] using same⟩
        | simp [variant, describe] at names

end NetworkId

theorem describeNetwork_none_ne (network : NetworkId) (r s : String) :
    describeNetwork none ++ r ≠ describeNetwork (some network) ++ s := by
  intro same
  have heads := congrArg (fun t => t.toList.head?) same
  simp [describeNetwork] at heads

theorem tells_networkOption : Tells describeNetwork id := by
  have told : Closed (fun network => "Some(" ++ NetworkId.describe network ++ ")") id :=
    NetworkId.tells.between "Some(" (show Breaks ")" from rfl)
  intro a b r s hr hs same
  cases a with
  | none =>
    cases b with
    | none => exact ⟨rfl, (String.append_right_inj "None").mp same⟩
    | some network => exact absurd same (describeNetwork_none_ne network r s)
  | some network =>
    cases b with
    | none => exact absurd same.symm (describeNetwork_none_ne network s r)
    | some network' => exact (told same).imp (congrArg some) id

/-! ### Junctions -/

theorem GeneralKey.tells : Tells describe trimmed := by
  have hex : Tells (fun key : GeneralKey => Hex.encode key.bytes) trimmed :=
    tells_hex.of fun _ _ same => trimmed_inj.mpr same
  exact (hex.between "GeneralKey(" (show Breaks ")" from rfl)).tells

namespace Junction

def variant : Junction → String
  | .parachain _ => "Parachain"
  | .accountId32 _ _ => "AccountId32"
  | .accountIndex64 _ _ => "AccountIndex64"
  | .accountKey20 _ _ => "AccountKey20"
  | .palletInstance _ => "PalletInstance"
  | .generalIndex _ => "GeneralIndex"
  | .generalKey _ => "GeneralKey"
  | .onlyChild => "OnlyChild"
  | .globalConsensus _ => "GlobalConsensus"

def contents : Junction → String
  | .parachain id => "(" ++ toString id.toNat ++ ")"
  | .accountId32 network id =>
    describeRecord "" [("network", describeNetwork network), ("id", describeBytes id.toList)]
  | .accountIndex64 network index =>
    describeRecord "" [("network", describeNetwork network), ("index", toString index.toNat)]
  | .accountKey20 network key =>
    describeRecord "" [("network", describeNetwork network), ("key", describeBytes key.toList)]
  | .palletInstance index => "(" ++ toString index.toNat ++ ")"
  | .generalIndex index => "(" ++ toString index.toNat ++ ")"
  | .generalKey key => "(" ++ key.describe ++ ")"
  | .onlyChild => ""
  | .globalConsensus network => "(" ++ network.describe ++ ")"

theorem describe_eq (junction : Junction) :
    junction.describe = junction.variant ++ junction.contents := by
  cases junction with
  | accountId32 => exact describeRecord_eq _ _
  | accountIndex64 => exact describeRecord_eq _ _
  | accountKey20 => exact describeRecord_eq _ _
  | onlyChild => exact String.append_empty.symm
  | _ => exact tuple_eq (by simp [variant]) _

theorem tells_contents ⦃a b : Junction⦄ ⦃r s : String⦄ (names : a.variant = b.variant)
    (same : a.contents ++ r = b.contents ++ s) : a.trimmed = b.trimmed ∧ r = s := by
  cases a with
  | parachain n =>
    cases b with
    | parachain n' =>
      obtain ⟨told, rest⟩ := (tells_toNat fun _ _ => UInt32.toNat.inj).tuple same
      exact ⟨congrArg parachain told, rest⟩
    | _ => simp [variant] at names
  | accountId32 network account =>
    cases b with
    | accountId32 network' account' =>
      have fields := tells_networkOption.fields (closed_fixedBytes (n := 32)).tells ""
        "network" "id"
      obtain ⟨told, rest⟩ := @fields (network, account) (network', account') r s same
      cases told
      exact ⟨rfl, rest⟩
    | _ => simp [variant] at names
  | accountIndex64 network index =>
    cases b with
    | accountIndex64 network' index' =>
      have fields := tells_networkOption.fields (tells_toNat fun _ _ => UInt64.toNat.inj) ""
        "network" "index"
      obtain ⟨told, rest⟩ := @fields (network, index) (network', index') r s same
      cases told
      exact ⟨rfl, rest⟩
    | _ => simp [variant] at names
  | accountKey20 network key =>
    cases b with
    | accountKey20 network' key' =>
      have fields := tells_networkOption.fields (closed_fixedBytes (n := 20)).tells ""
        "network" "key"
      obtain ⟨told, rest⟩ := @fields (network, key) (network', key') r s same
      cases told
      exact ⟨rfl, rest⟩
    | _ => simp [variant] at names
  | palletInstance index =>
    cases b with
    | palletInstance index' =>
      obtain ⟨told, rest⟩ := (tells_toNat fun _ _ => UInt8.toNat.inj).tuple same
      exact ⟨congrArg palletInstance told, rest⟩
    | _ => simp [variant] at names
  | generalIndex index =>
    cases b with
    | generalIndex index' =>
      obtain ⟨told, rest⟩ := (tells_toNat fun _ _ => BitVec.eq_of_toNat_eq).tuple same
      exact ⟨congrArg generalIndex told, rest⟩
    | _ => simp [variant] at names
  | generalKey key =>
    cases b with
    | generalKey key' =>
      obtain ⟨told, rest⟩ := GeneralKey.tells.tuple same
      exact ⟨congrArg generalKey told, rest⟩
    | _ => simp [variant] at names
  | onlyChild =>
    cases b with
    | onlyChild => exact ⟨rfl, by simpa [contents] using same⟩
    | _ => simp [variant] at names
  | globalConsensus network =>
    cases b with
    | globalConsensus network' =>
      obtain ⟨told, rest⟩ := NetworkId.tells.tuple same
      exact ⟨congrArg globalConsensus told, rest⟩
    | _ => simp [variant] at names

theorem tells : Tells describe trimmed := by
  refine tells_variants describe_eq ?_ ?_ ?_
  · intro junction
    cases junction <;> simp [variant]
  · intro junction
    cases junction <;> simp [contents, Breaks, describeRecord]
  · intro a b r s names same _ _
    exact tells_contents names same

theorem starts_describe (junction : Junction) : Starts junction.describe := by
  rw [describe_eq]
  cases junction <;> simp [Starts, variant]

theorem describe_trimmed (junction : Junction) : junction.trimmed.describe = junction.describe := by
  cases junction with
  | generalKey key =>
    change "GeneralKey(" ++ ("GeneralKey(" ++ Hex.encode key.trimmed.bytes ++ ")") ++ ")" = _
    rw [key.bytes_trimmed]
    rfl
  | _ => rfl

end Junction

/-! ### Locations -/

namespace Location

open Canonical

variable {l l' : Location}

theorem describe_trimmed (l : Location) : l.trimmed.describe = l.describe := by
  have path : l.trimmed.interior.toList.map Junction.describe =
      l.interior.toList.map Junction.describe := by
    simp [trimmed, Junction.describe_trimmed]
  unfold describe
  rw [path]
  rfl

theorem describe_eq (l : Location) :
    l.describe = "(" ++ (toString l.parents.toNat ++ ", [" ++
      (String.intercalate ", " (l.interior.toList.map Junction.describe) ++ "]")) ++ ")" := by
  apply String.toList_inj.mp
  simp [describe]

theorem describe_inj : l.describe = l'.describe ↔ l.trimmed = l'.trimmed := by
  refine ⟨fun same => ?_, fun same => ?_⟩
  · have parents : Tells (fun n : UInt8 => toString n.toNat) id :=
      tells_toNat fun _ _ => UInt8.toNat.inj
    have path := Junction.tells.list Junction.starts_describe
    have pair := parents.and path.tells (show Breaks ", [" from rfl)
    have whole := pair.between "(" (show Breaks ")" from rfl)
    rw [l.describe_eq, l'.describe_eq] at same
    obtain ⟨told, -⟩ := @whole (l.parents, l.interior.toList) (l'.parents, l'.interior.toList)
      "" "" (congrArg (· ++ "") same)
    obtain ⟨up, down⟩ := Prod.mk.inj told
    unfold trimmed
    simp only [mk.injEq, Junctions.mk.injEq]
    exact ⟨up, down⟩
  · rw [← l.describe_trimmed, ← l'.describe_trimmed, same]

/-- Every location comes from its binary form. Its texts, in JSON and for people, tell exactly its
trimmed form, so it is read back as itself exactly if its keys are proper. -/
theorem texts_tell_trimmed (l : Location) :
    (decode : Decoder Location) (encode l) = some (l, []) ∧
      readText (jsonText l) = .ok l.trimmed ∧
      (readText (jsonText l) = .ok l ↔ l.Proper) ∧ (encode l.trimmed = encode l ↔ l.Proper) ∧
      ∀ l' : Location, (jsonText l = jsonText l' ↔ l.trimmed = l'.trimmed) ∧
        (l.describe = l'.describe ↔ l.trimmed = l'.trimmed) := by
  have read := decode_encode (a := l) trivial []
  rw [List.append_nil] at read
  refine ⟨read, l.readText_jsonText, readText_jsonText_iff, ?_,
    fun l' => ⟨jsonText_inj, describe_inj⟩⟩
  rw [← trimmed_eq_iff]
  exact ⟨fun same => encode_inj trivial trivial same, fun same => congrArg encode same⟩

/-- A key of 32 bytes that is said to have one more. -/
def Sample.overlong : Location := ⟨0, .one (.generalKey ⟨33, ⟨List.replicate 32 1, rfl⟩⟩)⟩

/-- It is decoded, and not read back, and another location has the same texts. -/
theorem overlong_not_read_back :
    (decode : Decoder Location) (0 :: 1 :: 6 :: 33 :: List.replicate 32 1) =
        some (Sample.overlong, []) ∧
      readText (jsonText Sample.overlong) ≠ .ok Sample.overlong ∧
      ∃ other, other ≠ Sample.overlong ∧ encode other ≠ encode Sample.overlong ∧
        jsonText other = jsonText Sample.overlong ∧ other.describe = Sample.overlong.describe := by
  have improper : Sample.overlong.trimmed ≠ Sample.overlong := by decide
  refine ⟨decode_encode (a := Sample.overlong) trivial [], ?_, Sample.overlong.trimmed, improper,
    ?_, ?_, describe_trimmed _⟩
  · rw [readText_jsonText]
    exact fun same => improper (Except.ok.inj same)
  · exact fun same => improper (encode_inj trivial trivial same)
  · unfold jsonText
    rw [toJson_trimmed]

end Location

end XcmTasks

import XcmTasks.Proofs.Json.Settings
import XcmTasks.Proofs.Scale.Wire

/-!
General keys in the two forms of a location. The binary form keeps the length of a key and all of
its 32 bytes, whatever they are; JSON keeps the bytes that count. So a location that is read back
from its JSON has the same path with trimmed keys, and it is the same location only if its keys are
proper ones, which can be made from bytes.
-/

namespace XcmTasks

open Document

variable {d : Nat}

/-! ### Trimmed keys -/

namespace GeneralKey

variable {key key' : GeneralKey}

/-- The key that is made from the bytes that count. -/
def trimmed (key : GeneralKey) : GeneralKey :=
  ⟨UInt8.ofNat key.bytes.length, .fit 32 key.bytes⟩

/-- No more bytes count than there are, and those that do not count are zeros. -/
def Proper (key : GeneralKey) : Prop :=
  key.length.toNat ≤ 32 ∧ ∀ b ∈ key.data.toList.drop key.length.toNat, b = 0

theorem length_bytes_le (key : GeneralKey) : key.bytes.length ≤ 32 := by
  have whole : key.data.toList.length = 32 := key.data.length_toList
  unfold bytes
  rw [List.length_take, whole]
  exact Nat.min_le_right _ _

theorem ofBytes?_bytes (key : GeneralKey) : ofBytes? key.bytes = some key.trimmed :=
  ofBytes?_eq_some.mpr ⟨key.length_bytes_le, rfl⟩

theorem bytes_trimmed (key : GeneralKey) : key.trimmed.bytes = key.bytes :=
  bytes_of_ofBytes? key.ofBytes?_bytes

/-- The keys that can be made from bytes are the proper ones. -/
theorem proper_iff : key.Proper ↔ ∃ bytes, ofBytes? bytes = some key := by
  have whole : key.data.toList.length = 32 := key.data.length_toList
  refine ⟨?_, ?_⟩
  · rintro ⟨short, zeros⟩
    have count : key.bytes.length = key.length.toNat := by
      unfold bytes
      rw [List.length_take, whole, Nat.min_eq_left short]
    have behind : key.data.toList.drop key.length.toNat =
        List.replicate (32 - key.length.toNat) 0 := by
      rw [List.eq_replicate_iff, List.length_drop, whole]
      exact ⟨rfl, zeros⟩
    have data : key.data = .fit 32 key.bytes := by
      apply FixedBytes.ext
      change _ = (key.bytes ++ List.replicate 32 0).take 32
      have front : key.bytes.take 32 = key.bytes := List.take_of_length_le key.length_bytes_le
      have filled : (List.replicate 32 (0 : UInt8)).take (32 - key.length.toNat) =
          List.replicate (32 - key.length.toNat) 0 := by
        rw [List.take_replicate, Nat.min_eq_left (Nat.sub_le _ _)]
      rw [List.take_append, front, count, filled, ← behind]
      exact (List.take_append_drop _ _).symm
    refine ⟨key.bytes, ofBytes?_eq_some.mpr ⟨key.length_bytes_le, ?_⟩⟩
    rw [count, UInt8.ofNat_toNat, ← data]
  · rintro ⟨bytes, made⟩
    obtain ⟨short, rfl⟩ := ofBytes?_eq_some.mp made
    have count : (UInt8.ofNat bytes.length).toNat = bytes.length :=
      UInt8.toNat_ofNat_of_lt' (Nat.lt_of_le_of_lt short (by decide))
    refine ⟨count.symm ▸ short, ?_⟩
    intro b member
    change b ∈ ((bytes ++ List.replicate 32 0).take 32).drop _ at member
    rw [count, List.drop_take, List.drop_left] at member
    exact List.eq_of_mem_replicate (List.mem_of_mem_take member)

theorem trimmed_eq_iff : key.trimmed = key ↔ key.Proper := by
  rw [proper_iff]
  have own := key.ofBytes?_bytes
  refine ⟨fun h => ⟨key.bytes, own.trans (congrArg some h)⟩, ?_⟩
  rintro ⟨bytes, made⟩
  rw [bytes_of_ofBytes? made, made] at own
  exact (Option.some.inj own).symm

theorem trimmed_inj : key.trimmed = key'.trimmed ↔ key.bytes = key'.bytes := by
  refine ⟨fun h => ?_, fun h => ?_⟩
  · rw [← key.bytes_trimmed, h, key'.bytes_trimmed]
  · unfold trimmed
    rw [h]

end GeneralKey

namespace Junction

def trimmed : Junction → Junction
  | .generalKey key => .generalKey key.trimmed
  | junction => junction

def Proper : Junction → Prop
  | .generalKey key => key.Proper
  | _ => True

theorem trimmed_eq_iff {junction : Junction} : junction.trimmed = junction ↔ junction.Proper := by
  cases junction with
  | generalKey key => simpa [trimmed, Proper] using key.trimmed_eq_iff
  | _ => simp [trimmed, Proper]

end Junction

namespace Location

def trimmed (l : Location) : Location :=
  ⟨l.parents, ⟨l.interior.toList.map Junction.trimmed, by
    rw [List.length_map]
    exact l.interior.length_le⟩⟩

/-- All keys of the path are proper. -/
def Proper (l : Location) : Prop := ∀ junction ∈ l.interior.toList, junction.Proper

theorem trimmed_eq_iff {l : Location} : l.trimmed = l ↔ l.Proper := by
  obtain ⟨parents, path, short⟩ := l
  have same := List.map_inj_left (l := path) (f := Junction.trimmed) (g := id)
  rw [List.map_id] at same
  simp only [trimmed, Proper, mk.injEq, Junctions.mk.injEq, true_and, same, id_eq,
    Junction.trimmed_eq_iff]

end Location

/-! ### JSON -/

theorem Steady.map_back {α β : Type} [ToJson α] [FromDocument α] {a : α} (h : Steady d a)
    (f : α → β) : f <$> read .exact (toJson a).tree = .ok (f a) := by
  rw [h.back]
  rfl

theorem variantOf_at {α : Type} {variants : List (String × Variant α)} {i : Nat} {name : String}
    {item : Manner → Document → Reading α} {j : Json} {a : α}
    (hn : (variants.map Prod.fst).Nodup) (hv : variants[i]? = some (name, .carrying item))
    (ha : item .exact j.tree = .ok a) :
    variantOf variants .exact (Json.object [(name, j)]).tree = .ok a :=
  variantOf_carrying hn (List.mem_of_getElem? hv) ha

theorem read_network (network : NetworkId) : read .exact (toJson network).tree = .ok network := by
  have hash (bytes : FixedBytes 32) : Steady 0 bytes := steady_fixedBytes bytes
  have word (n : UInt64) : Steady 0 n := steady_word64 n
  cases network with
  | byGenesis genesis => exact variantOf_at (i := 0) (by decide) rfl ((hash genesis).map_back _)
  | byFork block fork =>
    exact variantOf_at (i := 1) (by decide) rfl
      (Members.reads_two (by decide) (word block).back (hash fork).back).recordOf
  | ethereum chainId =>
    refine variantOf_at (i := 7) (by decide) rfl (Members.Reads.recordOf ?_)
    exact (Members.reads_of _).and_one (fun _ _ => rfl) (word chainId).back
  | _ => rfl

theorem steady_network (network : NetworkId) : Steady (d + 2) network :=
  steady_of_read (read_network network)

theorem steady_networkOption : ∀ network : Option NetworkId, Steady (d + 2) network
  | none => steady_none
  | some network => steady_some (steady_network network) fun h => by cases h

theorem read_generalKey (key : GeneralKey) : read .exact (toJson key).tree = .ok key.trimmed :=
  GeneralKey.read_hexJson key.ofBytes?_bytes

theorem read_junction (junction : Junction) :
    read .exact (toJson junction).tree = .ok junction.trimmed := by
  have network (o : Option NetworkId) : Steady 2 o := steady_networkOption o
  have index (n : UInt64) : Steady 0 n := steady_word64 n
  cases junction with
  | parachain id =>
    have back : Steady 0 id := steady_word32 id
    exact variantOf_at (i := 0) (by decide) rfl (back.map_back _)
  | accountId32 o id =>
    have back : Steady 0 id := steady_fixedBytes id
    exact variantOf_at (i := 1) (by decide) rfl
      (Members.reads_two (by decide) (network o).back back.back).recordOf
  | accountIndex64 o n =>
    exact variantOf_at (i := 2) (by decide) rfl
      (Members.reads_two (by decide) (network o).back (index n).back).recordOf
  | accountKey20 o key =>
    have back : Steady 0 key := steady_fixedBytes key
    exact variantOf_at (i := 3) (by decide) rfl
      (Members.reads_two (by decide) (network o).back back.back).recordOf
  | palletInstance n =>
    have back : Steady 0 n := steady_byte n
    exact variantOf_at (i := 4) (by decide) rfl (back.map_back _)
  | generalIndex n =>
    have back : Steady 0 n := steady_word128 n
    exact variantOf_at (i := 5) (by decide) rfl (back.map_back _)
  | generalKey key =>
    refine variantOf_at (i := 6) (by decide) rfl ?_
    rw [read_generalKey]
    rfl
  | onlyChild => rfl
  | globalConsensus network =>
    have back : Steady 2 network := steady_network network
    exact variantOf_at (i := 8) (by decide) rfl (back.map_back _)

theorem steady_trimmed (junction : Junction) : Steady (d + 4) junction.trimmed :=
  steady_of_read (read_junction junction)

theorem Junction.toJson_trimmed (junction : Junction) :
    toJson junction.trimmed = toJson junction := by
  cases junction with
  | generalKey key =>
    change Json.object [("general_key", hexJson key.trimmed.bytes)] = _
    rw [key.bytes_trimmed]
    rfl
  | _ => rfl

namespace Location

variable {l l' : Location}

theorem toJson_trimmed (l : Location) : toJson l.trimmed = toJson l := by
  have path : (l.interior.toList.map Junction.trimmed).map toJson =
      l.interior.toList.map toJson := by
    simp [Junction.toJson_trimmed]
  change Json.object [("parents", toJson l.parents),
    ("interior", .list ((l.interior.toList.map Junction.trimmed).map toJson))] = _
  rw [path]
  rfl

theorem steady_trimmed (l : Location) : Steady (d + 6) l.trimmed := by
  have junctions : ∀ junction ∈ l.trimmed.interior.toList, Steady 4 junction := by
    intro junction member
    obtain ⟨given, -, rfl⟩ := List.mem_map.mp member
    exact XcmTasks.steady_trimmed given
  have path : Steady 5 l.trimmed.interior :=
    steady_junctions ⟨plain_list junctions, listOf_toJson junctions⟩
  have parents : Steady 0 l.trimmed.parents := steady_byte _
  have back : read .exact (toJson l.trimmed).tree = .ok l.trimmed :=
    (Members.reads_two (by decide) parents.back path.back).recordOf
  exact steady_of_read back

/-- A location is read back from its JSON text with its keys trimmed. -/
theorem readText_jsonText (l : Location) : readText (jsonText l) = .ok l.trimmed := by
  have steady : Steady (121 + 6) l.trimmed := l.steady_trimmed
  have text : jsonText l.trimmed = jsonText l := by
    unfold jsonText
    rw [toJson_trimmed]
  rw [← text]
  exact steady.readText

theorem readText_jsonText_iff : readText (jsonText l) = .ok l ↔ l.Proper := by
  rw [readText_jsonText, ← trimmed_eq_iff, Except.ok.injEq]

theorem jsonText_inj : jsonText l = jsonText l' ↔ l.trimmed = l'.trimmed := by
  refine ⟨fun h => ?_, fun h => ?_⟩
  · have same : readText (jsonText l) = .ok l'.trimmed := by rw [h, readText_jsonText]
    rw [readText_jsonText] at same
    exact Except.ok.inj same
  · unfold jsonText
    rw [← l.toJson_trimmed, ← l'.toJson_trimmed, h]

end Location

end XcmTasks

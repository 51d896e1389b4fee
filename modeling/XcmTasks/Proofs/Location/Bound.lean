import XcmTasks.Proofs.Json.Values
import XcmTasks.Proofs.Scale.Wire

/-!
The bound on the junctions of a path. What is done to paths is said once more of bare lists, which
nothing keeps short: a list is counted when it is taken for a path, when a junction is put at its
end and when the count of its binary form is read, and it is cut without a look at its length when a
parachain sees it from itself. Bare lists that are come by in these ways are still never longer than
eight, and the paths, which cannot be longer, are treated in the very same way.
-/

namespace XcmTasks

open Document Decoder

/-- A path as a list of junctions that nothing keeps short. -/
abbrev BarePath := List Junction

namespace BarePath

def ofList (junctions : List Junction) : Except TooManyJunctions BarePath :=
  if maxJunctions < junctions.length then .error ⟨junctions.length⟩ else .ok junctions

def add (path : BarePath) (junction : Junction) : Except TooManyJunctions Unit × BarePath :=
  if maxJunctions ≤ path.length then (.error ⟨path.length + 1⟩, path)
  else (.ok (), path ++ [junction])

def paraId? (parents : UInt8) (path : BarePath) : Option UInt32 :=
  if parents = 1 then
    match path.head? with
    | some (.parachain id) => some id
    | _ => none
  else none

def behindFirst? (path : BarePath) : Option BarePath :=
  if 1 ≤ path.length then some (path.drop 1) else none

def relativeTo? (parents : UInt8) (path : BarePath) (paraId : UInt32) :
    Option (UInt8 × BarePath) :=
  if path.paraId? parents = some paraId then path.behindFirst?.map fun rest => (0, rest)
  else some (parents, path)

def ofDocument (manner : Manner) (document : Document) : Reading BarePath := do
  match ofList (← listOf read manner document) with
  | .ok path => return path
  | .error e => .error (.refused e.message)

def decoder : Decoder BarePath := do
  let count ← byte
  if maxJunctions < count.toNat then fail else times decode count.toNat

def bytes (path : BarePath) : Bytes := UInt8.ofNat path.length :: path.flatMap encode

/-- The bare paths that can be come by. -/
inductive Obtainable : BarePath → Prop where
  | here : Obtainable []
  | sibling (paraId : UInt32) : Obtainable [.parachain paraId]
  | listed {junctions : List Junction} {path : BarePath} (h : ofList junctions = .ok path) :
      Obtainable path
  | added {path : BarePath} (h : Obtainable path) (junction : Junction) :
      Obtainable (path.add junction).2
  | seen {parents parents' : UInt8} {path path' : BarePath} {paraId : UInt32}
      (h : Obtainable path) (hs : relativeTo? parents path paraId = some (parents', path')) :
      Obtainable path'
  | read {manner : Manner} {document : Document} {path : BarePath}
      (h : ofDocument manner document = .ok path) : Obtainable path
  | decoded {bytes rest : Bytes} {path : BarePath} (h : decoder bytes = some (path, rest)) :
      Obtainable path

variable {path path' : BarePath} {parents parents' : UInt8} {paraId : UInt32} {junction : Junction}

theorem ofList_eq_ok {junctions : List Junction} :
    ofList junctions = .ok path ↔ junctions = path ∧ path.length ≤ maxJunctions := by
  unfold ofList
  split
  case isTrue long =>
    simp only [reduceCtorEq, false_iff, not_and]
    rintro rfl
    omega
  case isFalse short =>
    simp only [Except.ok.injEq, iff_self_and]
    rintro rfl
    omega

theorem length_add (h : path.length ≤ maxJunctions) :
    (path.add junction).2.length ≤ maxJunctions := by
  unfold add
  split
  case isTrue => exact h
  case isFalse room =>
    simp only [List.length_append, List.length_singleton]
    omega

theorem length_behindFirst (h : path.behindFirst? = some path') : path'.length ≤ path.length := by
  unfold behindFirst? at h
  split at h
  case isTrue =>
    cases h
    simp
  case isFalse => cases h

theorem length_relativeTo (h : relativeTo? parents path paraId = some (parents', path')) :
    path'.length ≤ path.length := by
  unfold relativeTo? at h
  split at h
  case isTrue =>
    obtain ⟨rest, behind, same⟩ := Option.map_eq_some_iff.mp h
    cases same
    exact length_behindFirst behind
  case isFalse =>
    cases h
    exact Nat.le_refl _

theorem length_ofDocument {manner : Manner} {document : Document}
    (h : ofDocument manner document = .ok path) : path.length ≤ maxJunctions := by
  obtain ⟨junctions, -, h⟩ := bind_eq_ok h
  split at h
  case h_1 counted =>
    cases h
    exact (ofList_eq_ok.mp counted).2
  case h_2 => cases h

theorem length_decoder {bytes rest : Bytes} (h : decoder bytes = some (path, rest)) :
    path.length ≤ maxJunctions := by
  obtain ⟨count, mid, -, h⟩ := bind_eq_some.mp h
  split at h
  case isTrue => cases h
  case isFalse short =>
    have read := (reads_times Canonical.reads count.toNat).iff.mp h
    omega

theorem Obtainable.length_le (h : Obtainable path) : path.length ≤ maxJunctions := by
  induction h with
  | here => decide
  | sibling => simp [maxJunctions]
  | listed h => exact (ofList_eq_ok.mp h).2
  | added _ junction ih => exact length_add ih
  | seen _ hs ih => exact Nat.le_trans (length_relativeTo hs) ih
  | read h => exact length_ofDocument h
  | decoded h => exact length_decoder h

theorem obtainable_iff : Obtainable path ↔ path.length ≤ maxJunctions :=
  ⟨Obtainable.length_le, fun h => .listed (ofList_eq_ok.mpr ⟨rfl, h⟩)⟩

theorem ne_nil_of_paraId? (h : BarePath.paraId? parents path = some paraId) : path ≠ [] := by
  rintro rfl
  simp [paraId?] at h

/-- A path is cut only behind a parachain, so there is a first junction to leave out. -/
theorem relativeTo?_ne_none (parents : UInt8) (path : BarePath) (paraId : UInt32) :
    BarePath.relativeTo? parents path paraId ≠ none := by
  unfold relativeTo?
  split
  case isTrue through =>
    have first := List.length_pos_iff.mpr (ne_nil_of_paraId? through)
    simp [behindFirst?, Nat.succ_le_of_lt first]
  case isFalse => simp

end BarePath

/-! ### Paths as bare lists -/

namespace Junctions

variable {path : Junctions} {bytes rest : Bytes}

theorem ofList_of_fits {junctions : List Junction} (h : junctions.length ≤ maxJunctions) :
    ofList junctions = .ok ⟨junctions, h⟩ :=
  dif_pos h

theorem ofList_of_overlong {junctions : List Junction} (h : maxJunctions < junctions.length) :
    ofList junctions = .error ⟨junctions.length⟩ :=
  dif_neg (Nat.not_le.mpr h)

theorem ofList_bare (junctions : List Junction) :
    (ofList junctions).map toList = BarePath.ofList junctions := by
  unfold BarePath.ofList
  rcases Nat.lt_or_ge maxJunctions junctions.length with long | short
  · rw [ofList_of_overlong long, if_pos long]
    rfl
  · rw [ofList_of_fits short, if_neg (Nat.not_lt.mpr short)]
    rfl

theorem add_of_full (hf : path.length = maxJunctions) (junction : Junction) :
    path.add junction = (.error ⟨maxJunctions + 1⟩, path) := by
  have count : (path.toList ++ [junction]).length = maxJunctions + 1 := by
    simpa [length] using hf
  unfold add push
  rw [ofList_of_overlong (by omega), count]

theorem exists_add (hf : path.length < maxJunctions) (junction : Junction) :
    ∃ longer, path.add junction = (.ok (), longer) ∧ longer.toList = path.toList ++ [junction] := by
  have room : (path.toList ++ [junction]).length ≤ maxJunctions := by
    rw [List.length_append]
    exact hf
  unfold add push
  rw [ofList_of_fits room]
  exact ⟨_, rfl, rfl⟩

/-- Adding one junction after another fills the path, and those for which there is no room are left
out. -/
theorem toList_addEach (path : Junctions) (junctions : List Junction) :
    (junctions.foldl (fun path junction => (path.add junction).2) path).toList =
      (path.toList ++ junctions).take maxJunctions := by
  induction junctions generalizing path with
  | nil =>
    rw [List.append_nil]
    exact (List.take_of_length_le path.length_le).symm
  | cons junction junctions ih =>
    rw [List.foldl_cons, ih]
    rcases Nat.lt_or_eq_of_le path.length_le with room | full
    · obtain ⟨longer, added, same⟩ := exists_add room junction
      rw [added, same, List.append_assoc, List.singleton_append]
    · rw [add_of_full full, ← full, List.take_left, List.take_left]

theorem add_bare (path : Junctions) (junction : Junction) :
    ((path.add junction).1, (path.add junction).2.toList) = BarePath.add path.toList junction := by
  unfold BarePath.add
  rcases Nat.lt_or_eq_of_le path.length_le with room | full
  · obtain ⟨longer, added, same⟩ := exists_add room junction
    rw [if_neg (Nat.not_le.mpr room), added, ← same]
  · rw [if_pos (Nat.le_of_eq full.symm), add_of_full full, full]

theorem read_bare (manner : Manner) (document : Document) :
    (read manner document : Reading Junctions).map toList =
      BarePath.ofDocument manner document := by
  change Except.map toList ((read manner document : Reading (List Junction)) >>= _) =
    (read manner document : Reading (List Junction)) >>= _
  cases (read manner document : Reading (List Junction)) with
  | error e => rfl
  | ok junctions =>
    dsimp only [bind, Except.bind]
    rw [← ofList_bare]
    cases ofList junctions <;> rfl

theorem read_of_list {manner : Manner} {document : Document} {junctions : List Junction}
    (h : read manner document = .ok junctions) :
    (maxJunctions < junctions.length ∧ (read manner document : Reading Junctions) =
        .error (.refused (TooManyJunctions.message ⟨junctions.length⟩))) ∨
      (junctions.length ≤ maxJunctions ∧ ∃ path : Junctions,
        read manner document = .ok path ∧ path.toList = junctions) := by
  rcases Nat.lt_or_ge maxJunctions junctions.length with long | short
  · refine .inl ⟨long, ?_⟩
    change (read manner document : Reading (List Junction)) >>= _ = _
    rw [h]
    dsimp only [bind, Except.bind]
    rw [ofList_of_overlong long]
  · refine .inr ⟨short, ⟨junctions, short⟩, ?_, rfl⟩
    change (read manner document : Reading (List Junction)) >>= _ = _
    rw [h]
    dsimp only [bind, Except.bind]
    rw [ofList_of_fits short]
    rfl

theorem decoder_eq_some {list : BarePath} :
    BarePath.decoder bytes = some (list, rest) ↔
      list.length ≤ maxJunctions ∧ bytes = list.bytes ++ rest := by
  simp only [BarePath.decoder, bind_eq_some, byte_eq_some]
  refine ⟨?_, ?_⟩
  · rintro ⟨count, mid, rfl, h⟩
    split at h
    case isTrue => cases h
    case isFalse short =>
      obtain ⟨⟨same, -⟩, rfl⟩ := (reads_times Canonical.reads count.toNat).iff.mp h
      refine ⟨by omega, ?_⟩
      unfold BarePath.bytes
      rw [same, UInt8.ofNat_toNat]
      rfl
  · rintro ⟨short, rfl⟩
    have count : (UInt8.ofNat list.length).toNat = list.length := toNat_length ⟨list, short⟩
    refine ⟨_, _, rfl, ?_⟩
    rw [count, if_neg (Nat.not_lt.mpr short)]
    exact (reads_times Canonical.reads list.length).iff.mpr ⟨⟨rfl, fun _ _ => trivial⟩, rfl⟩

theorem decode_bare (bytes : Bytes) :
    ((decode : Decoder Junctions) bytes).map (fun read => (read.1.toList, read.2)) =
      BarePath.decoder bytes := by
  ext ⟨list, rest⟩
  rw [decoder_eq_some, Option.map_eq_some_iff]
  refine ⟨?_, ?_⟩
  · rintro ⟨⟨path, rest⟩, h, same⟩
    cases same
    exact ⟨path.length_le, (decode_eq_some_iff.mp h).2⟩
  · rintro ⟨short, rfl⟩
    exact ⟨(⟨list, short⟩, rest), decode_eq_some_iff.mpr ⟨trivial, rfl⟩, rfl⟩

theorem decode_overlong {count : UInt8} (h : maxJunctions < count.toNat) (rest : Bytes) :
    (decode : Decoder Junctions) (count :: rest) = none := by
  have none : BarePath.decoder (count :: rest) = none := by
    change (if maxJunctions < count.toNat then fail else times decode count.toNat) rest = _
    rw [if_pos h]
    rfl
  rw [← decode_bare] at none
  exact Option.map_eq_none_iff.mp none

end Junctions

namespace Location

variable {l : Location} {bytes rest : Bytes} {paraId : UInt32} {junction : Junction}

theorem relativeTo_bare (l : Location) (paraId : UInt32) :
    BarePath.relativeTo? l.parents l.interior.toList paraId =
      some ((l.relativeTo paraId).parents, (l.relativeTo paraId).interior.toList) := by
  obtain ⟨parents, ⟨junctions, short⟩⟩ := l
  have same : BarePath.paraId? parents junctions = paraId? ⟨parents, ⟨junctions, short⟩⟩ := rfl
  unfold BarePath.relativeTo? relativeTo
  rw [same]
  split
  case isTrue through =>
    -- a path that goes through a parachain has a first junction
    cases junctions with
    | nil => simp [paraId?, Junctions.first?] at through
    | cons first others => simp [BarePath.behindFirst?, Junctions.tail]
  case isFalse => rfl

/-- The path is left out of a document, or read from a part of it. -/
def PathRead (path : Junctions) : Prop :=
  path = .here ∨ ∃ manner part, read manner part = .ok path

theorem pathRead_of_read {manner : Manner} {document : Document}
    (h : read manner document = .ok l) : PathRead l.interior := by
  have beforePath : ((Members.of Location.mk).and (Members.required "parents")).Yields
      fun make => ∀ path, PathRead path → PathRead (make path).interior :=
    (Members.yields_of fun _ _ _ read => read).and
      (Members.yields_one (fun _ _ _ _ => trivial) fun _ _ => trivial)
  have path : (Members.withDefault "interior" Junctions.here).Yields PathRead := by
    refine Members.yields_one ?_ ?_
    · intro manner part path read
      exact .inr ⟨manner, part, read⟩
    · rintro path ⟨⟩
      exact .inl rfl
  have whole : (((Members.of Location.mk).and (Members.required "parents")).and
      (Members.withDefault "interior" .here)).Yields fun l => PathRead l.interior :=
    beforePath.and path
  exact whole.recordOf h

theorem of_decode (h : decode bytes = some (l, rest)) :
    ∃ mid, bytes = l.parents :: mid ∧ decode mid = some (l.interior, rest) := by
  obtain ⟨-, rfl⟩ := decode_eq_some_iff.mp h
  exact ⟨encode l.interior ++ rest, rfl, decode_encode trivial rest⟩

theorem decode_overlong {count : UInt8} (h : maxJunctions < count.toNat) (parents : UInt8)
    (rest : Bytes) : (decode : Decoder Location) (parents :: count :: rest) = none := by
  cases hd : (decode : Decoder Location) (parents :: count :: rest) with
  | none => rfl
  | some read =>
    obtain ⟨mid, same, h'⟩ := of_decode hd
    cases same
    cases (Junctions.decode_overlong h rest).symm.trans h'

theorem new_eq_ok {parents : UInt8} {junctions : List Junction} :
    new parents junctions = .ok l ↔ l.parents = parents ∧ l.interior.toList = junctions := by
  obtain ⟨parents', ⟨path, short⟩⟩ := l
  unfold new
  rcases Nat.lt_or_ge maxJunctions junctions.length with long | fits
  · rw [Junctions.ofList_of_overlong long]
    simp only [bind, Except.bind, reduceCtorEq, false_iff, not_and]
    rintro - rfl
    exact Nat.not_le.mpr long short
  · rw [Junctions.ofList_of_fits fits]
    simp [bind, Except.bind, pure, Except.pure, eq_comm]

theorem new_eq_error {parents : UInt8} {junctions : List Junction} {e : TooManyJunctions} :
    new parents junctions = .error e ↔
      maxJunctions < junctions.length ∧ e = ⟨junctions.length⟩ := by
  unfold new
  rcases Nat.lt_or_ge maxJunctions junctions.length with long | fits
  · rw [Junctions.ofList_of_overlong long]
    simp only [bind, Except.bind, Except.error.injEq]
    refine ⟨?_, ?_⟩
    · rintro rfl
      exact ⟨long, rfl⟩
    · rintro ⟨-, rfl⟩
      rfl
  · rw [Junctions.ofList_of_fits fits]
    simp [bind, Except.bind, pure, Except.pure, fits]

theorem push_eq_add (l : Location) (junction : Junction) :
    l.push junction = (l.interior.add junction).1.map fun _ =>
      ⟨l.parents, (l.interior.add junction).2⟩ := by
  unfold push Junctions.add
  cases l.interior.push junction <;> rfl

end Location

/-- The functions of paths do to them what is done to bare lists, and locations are read by way of
their paths. -/
structure Junctions.TreatedAsLists : Prop where
  here : Location.here.interior.toList = []
  sibling : ∀ paraId, (Location.siblingParachain paraId).interior.toList = [.parachain paraId]
  listed : ∀ junctions, (ofList junctions).map toList = BarePath.ofList junctions
  added : ∀ (path : Junctions) junction,
    ((path.add junction).1, (path.add junction).2.toList) = BarePath.add path.toList junction
  pushed : ∀ (l : Location) junction, l.push junction =
    (l.interior.add junction).1.map fun _ => ⟨l.parents, (l.interior.add junction).2⟩
  seen : ∀ (l : Location) paraId, BarePath.relativeTo? l.parents l.interior.toList paraId =
    some ((l.relativeTo paraId).parents, (l.relativeTo paraId).interior.toList)
  read : ∀ manner document,
    (read manner document : Reading Junctions).map toList = BarePath.ofDocument manner document
  readIn : ∀ manner document (l : Location), XcmTasks.read manner document = .ok l →
    l.interior = .here ∨ ∃ manner part, XcmTasks.read manner part = .ok l.interior
  decoded : ∀ bytes, ((decode : Decoder Junctions) bytes).map
    (fun read => (read.1.toList, read.2)) = BarePath.decoder bytes
  decodedIn : ∀ bytes (l : Location) rest, decode bytes = some (l, rest) →
    ∃ mid, bytes = l.parents :: mid ∧ decode mid = some (l.interior, rest)
  encoded : ∀ path : Junctions, encode path = BarePath.bytes path.toList

theorem Junctions.treatedAsLists : TreatedAsLists where
  here := rfl
  sibling _ := rfl
  listed := ofList_bare
  added := add_bare
  pushed := Location.push_eq_add
  seen := Location.relativeTo_bare
  read := read_bare
  readIn _ _ _ := Location.pathRead_of_read
  decoded := decode_bare
  decodedIn _ _ _ := Location.of_decode
  encoded _ := rfl

/-- Paths are treated as lists that nothing keeps short, and what can be come by in that way are the
lists of at most eight junctions. More are refused where a list is taken for a path, one more is
refused by a full path, which stays as it is, and counts above eight are refused in bytes. So the
count of a path fits into its byte, and no path is cut that is empty. -/
theorem Junctions.at_most_eight :
    (∀ path, BarePath.Obtainable path ↔ path.length ≤ maxJunctions) ∧
      TreatedAsLists ∧
      (∀ parents junctions,
        (∀ e, Location.new parents junctions = .error e ↔
          maxJunctions < junctions.length ∧ e = ⟨junctions.length⟩) ∧
        ∀ l, Location.new parents junctions = .ok l ↔
          l.parents = parents ∧ l.interior.toList = junctions) ∧
      (∀ manner document junctions, read manner document = .ok junctions →
        (maxJunctions < junctions.length ∧ (read manner document : Reading Junctions) =
            .error (.refused (TooManyJunctions.message ⟨junctions.length⟩))) ∨
          (junctions.length ≤ maxJunctions ∧ ∃ path : Junctions,
            read manner document = .ok path ∧ path.toList = junctions)) ∧
      (∀ (path : Junctions) junction,
        (path.length = maxJunctions ∧ path.add junction = (.error ⟨maxJunctions + 1⟩, path)) ∨
          (path.length < maxJunctions ∧ ∃ longer, path.add junction = (.ok (), longer) ∧
            longer.toList = path.toList ++ [junction])) ∧
      (∀ (path : Junctions) junctions,
        (junctions.foldl (fun path junction => (path.add junction).2) path).toList =
          (path.toList ++ junctions).take maxJunctions) ∧
      (∀ (l : Location) junction,
        (l.interior.length = maxJunctions ∧ l.push junction = .error ⟨maxJunctions + 1⟩) ∨
          (l.interior.length < maxJunctions ∧ ∃ longer, l.push junction = .ok longer ∧
            longer.parents = l.parents ∧
            longer.interior.toList = l.interior.toList ++ [junction])) ∧
      (∀ (count : UInt8) rest, maxJunctions < count.toNat →
        (decode : Decoder Junctions) (count :: rest) = none ∧
          ∀ parents, (decode : Decoder Location) (parents :: count :: rest) = none) ∧
      (∀ path : Junctions,
        encode path = UInt8.ofNat path.length :: path.toList.flatMap encode ∧
          (UInt8.ofNat path.length).toNat = path.length) ∧
      ∀ parents path paraId, BarePath.relativeTo? parents path paraId ≠ none := by
  refine ⟨fun _ => BarePath.obtainable_iff, treatedAsLists, ?_, ?_, ?_, toList_addEach, ?_, ?_, ?_,
    BarePath.relativeTo?_ne_none⟩
  · exact fun parents junctions => ⟨fun _ => Location.new_eq_error, fun _ => Location.new_eq_ok⟩
  · exact fun manner document junctions => read_of_list
  · intro path junction
    rcases Nat.lt_or_eq_of_le path.length_le with room | full
    · exact .inr ⟨room, exists_add room junction⟩
    · exact .inl ⟨full, add_of_full full junction⟩
  · intro l junction
    rw [Location.push_eq_add]
    rcases Nat.lt_or_eq_of_le l.interior.length_le with room | full
    · obtain ⟨longer, added, same⟩ := exists_add room junction
      rw [added]
      exact .inr ⟨room, ⟨l.parents, longer⟩, rfl, rfl, same⟩
    · rw [add_of_full full]
      exact .inl ⟨full, rfl⟩
  · intro count rest above
    exact ⟨decode_overlong above rest, fun parents => Location.decode_overlong above parents rest⟩
  · exact fun path => ⟨rfl, path.toNat_length⟩

/-- One junction too many, as a text and in bytes. -/
theorem Junctions.at_most_eight_nine :
    (read .exact (.list (List.replicate 9 (.text (some "only_child"))) true) =
        .ok (List.replicate 9 Junction.onlyChild) ∧
      (read .exact (.list (List.replicate 9 (.text (some "only_child"))) true) :
        Reading Junctions) = .error (.refused "Too many junctions: 9 (maximum 8)")) ∧
      maxJunctions < (9 : UInt8).toNat ∧
      (decode : Decoder Junctions) (9 :: List.replicate 9 7) = none ∧
      (decode : Decoder Location) (0 :: 9 :: List.replicate 9 7) = none := by
  obtain ⟨-, -, -, listed, -, -, -, counted, -⟩ := at_most_eight
  have above : maxJunctions < (9 : UInt8).toNat := by decide
  have nine : read .exact (.list (List.replicate 9 (.text (some "only_child"))) true) =
      .ok (List.replicate 9 Junction.onlyChild) := by
    apply eq_ok_of_toOption
    decide +kernel
  refine ⟨⟨nine, ?_⟩, above, (counted 9 _ above).1, (counted 9 _ above).2 0⟩
  rcases listed _ _ _ nine with ⟨-, refused⟩ | ⟨short, -⟩
  · exact refused
  · exact absurd short (by decide)

end XcmTasks

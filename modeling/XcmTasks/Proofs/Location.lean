import XcmTasks.Chain.Local
import XcmTasks.Proofs.Results

/-!
The two names of a place on a parachain. The parachain itself names it by the path from there, and
its siblings by the path through the parachain. A chain compares locations in its own view, which
takes these two names together and no others, so its own currency has just two names as well.
-/

namespace XcmTasks

def Junctions.through (p : UInt32) (path : Junctions) (room : path.length < maxJunctions) :
    Junctions := ⟨.parachain p :: path.toList, room⟩

namespace Location

/-- The place at the end of a path, as the parachain where the path begins names it. -/
def inner (path : Junctions) : Location := ⟨0, path⟩

/-- The place at the end of a path from parachain `p`, as the siblings of `p` name it. A full path
leaves no room for the parachain, so the place at its end has no such name. -/
def outer (p : UInt32) (path : Junctions) (room : path.length < maxJunctions) : Location :=
  ⟨1, path.through p room⟩

/-- Parachain `p` calls a place by the first location, and its siblings call it by the other. -/
def Renames (p : UInt32) (own other : Location) : Prop :=
  ∃ path room, own = inner path ∧ other = outer p path room

variable {p q : UInt32} {path path' : Junctions} {a b l : Location}

theorem inner_inj : inner path = inner path' ↔ path = path' := by
  simp [inner]

@[simp] theorem relativeTo_inner (path : Junctions) (p : UInt32) :
    (inner path).relativeTo p = inner path := rfl

@[simp] theorem relativeTo_outer (room : path.length < maxJunctions) :
    (outer p path room).relativeTo p = inner path := by
  have known : (outer p path room).paraId? = some p := rfl
  simp only [relativeTo, known, if_true]
  rfl

theorem eq_outer_of_paraId? (h : l.paraId? = some p) : ∃ path room, l = outer p path room := by
  obtain ⟨parents, ⟨junctions, bound⟩⟩ := l
  unfold paraId? at h
  split at h
  case isFalse => cases h
  case isTrue up =>
    cases junctions with
    | nil => cases h
    | cons first others =>
      cases first with
      | parachain id =>
        cases h
        have room : others.length < maxJunctions := bound
        refine ⟨⟨others, Nat.le_of_lt room⟩, room, ?_⟩
        have parentsOne : parents = 1 := up
        rw [parentsOne]
        rfl
      | _ => cases h

/-- The view of parachain `p` changes its outer names into its inner ones, and nothing else. -/
theorem relativeTo_cases (l : Location) (p : UInt32) :
    (∃ path room, l = outer p path room ∧ l.relativeTo p = inner path) ∨ l.relativeTo p = l := by
  by_cases h : l.paraId? = some p
  · obtain ⟨path, room, rfl⟩ := eq_outer_of_paraId? h
    exact .inl ⟨path, room, rfl, relativeTo_outer room⟩
  · right
    simp [relativeTo, h]

theorem relativeTo_idem (l : Location) (p : UInt32) :
    (l.relativeTo p).relativeTo p = l.relativeTo p := by
  rcases relativeTo_cases l p with ⟨path, room, rfl, seen⟩ | seen
  · simp
  · rw [seen, seen]

theorem relativeTo_outer_of_ne (room : path.length < maxJunctions) (h : p ≠ q) :
    (outer p path room).relativeTo q = outer p path room := by
  have known : (outer p path room).paraId? = some p := rfl
  simp [relativeTo, known, h]

theorem relativeTo_comm (l : Location) (p q : UInt32) :
    (l.relativeTo p).relativeTo q = (l.relativeTo q).relativeTo p := by
  by_cases same : p = q
  · rw [same]
  rcases relativeTo_cases l p with ⟨path, room, rfl, seen⟩ | seen
  · have alone := relativeTo_outer_of_ne room same
    rw [seen, alone, seen, relativeTo_inner]
  · rw [seen]
    rcases relativeTo_cases l q with ⟨path, room, -, seen'⟩ | seen'
    · rw [seen', relativeTo_inner]
    · rw [seen', seen]

/-- Parachain `p` sees two locations at one place only if they are its name and its siblings' name
for that place. -/
theorem relativeTo_eq_iff (a b : Location) (p : UInt32) :
    a.relativeTo p = b.relativeTo p ↔ a = b ∨ Renames p a b ∨ Renames p b a := by
  constructor
  · intro h
    rcases relativeTo_cases a p with ⟨path, room, rfl, seen⟩ | seen
    · rcases relativeTo_cases b p with ⟨path', room', rfl, seen'⟩ | seen'
      · have same : path = path' := by
          rw [seen, seen', inner_inj] at h
          exact h
        subst same
        exact .inl rfl
      · rw [seen, seen'] at h
        exact .inr (.inr ⟨path, room, h.symm, rfl⟩)
    · rcases relativeTo_cases b p with ⟨path', room', rfl, seen'⟩ | seen'
      · rw [seen, seen'] at h
        exact .inr (.inl ⟨path', room', h, rfl⟩)
      · rw [seen, seen'] at h
        exact .inl h
  · rintro (rfl | ⟨path, room, rfl, rfl⟩ | ⟨path, room, rfl, rfl⟩) <;> simp

theorem relativeTo_eq_inner (l : Location) (p : UInt32) (path : Junctions) :
    l.relativeTo p = inner path ↔ l = inner path ∨ ∃ room, l = outer p path room := by
  have seen := relativeTo_eq_iff l (inner path) p
  rw [relativeTo_inner] at seen
  rw [seen]
  constructor
  · rintro (rfl | ⟨path', room, rfl, h⟩ | ⟨path', room, h, rfl⟩)
    · exact .inl rfl
    · cases h
    · rw [inner_inj] at h
      subst h
      exact .inr ⟨room, rfl⟩
  · rintro (rfl | ⟨room, rfl⟩)
    · exact .inl rfl
    · exact .inr (.inr ⟨path, room, rfl, rfl⟩)

end Location

namespace Chain

variable {chain : Chain} {p : UInt32}

/-- A valid chain sees its default asset at the end of a path from itself. -/
theorem ownView_defaultAsset (h : chain.validate = .ok ()) :
    ∃ path, chain.ownView chain.defaultAsset.location = .inner path := by
  have below : (chain.ownView chain.defaultAsset.location).parents = 0 := by
    -- a valid chain has passed three checks before that of its default asset
    unfold validate at h
    split at h
    case isTrue => cases h
    split at h
    case isTrue => cases h
    split at h
    case isTrue => cases h
    split at h
    case isTrue => cases h
    case isFalse own =>
      simp only [Bool.or_eq_true, bne_iff_ne, not_or, ne_eq, Decidable.not_not] at own
      exact own.2
  generalize chain.ownView chain.defaultAsset.location = seen at below
  obtain ⟨parents, path⟩ := seen
  exact ⟨path, congrArg (Location.mk · path) below⟩

theorem isNativeLocation_iff (l : Location) :
    chain.isNativeLocation l = true ↔
      chain.ownView l = chain.ownView chain.defaultAsset.location := by
  simp [isNativeLocation]

theorem ownView_of_paraId (h : chain.paraId = some p) (l : Location) :
    chain.ownView l = l.relativeTo p := by
  simp [ownView, h]

theorem ownView_of_homeless (h : chain.paraId = none) (l : Location) : chain.ownView l = l := by
  simp [ownView, h]

/-- A view of a parachain takes together the two names of each place and nothing else. So a valid
chain knows its own currency by the path where it sees its default asset, by its siblings' name for
that place if there is one, and by no other location; a chain without a number has one name only. -/
theorem names_of_place (p q : UInt32) (a b : Location) :
    (a.relativeTo p = b.relativeTo p ↔ a = b ∨ Location.Renames p a b ∨ Location.Renames p b a) ∧
      (a.relativeTo p).relativeTo p = a.relativeTo p ∧
      (a.relativeTo p).relativeTo q = (a.relativeTo q).relativeTo p ∧
      ∀ chain : Chain, chain.validate = .ok () →
        (chain.paraId = some p →
          ∃ path, chain.defaultAsset.location.relativeTo p = .inner path ∧
            ∀ l, chain.isNativeLocation l = true ↔
              l = .inner path ∨ ∃ room : path.length < maxJunctions, l = .outer p path room) ∧
        (chain.paraId = none →
          ∀ l, chain.isNativeLocation l = true ↔ l = chain.defaultAsset.location) := by
  refine ⟨Location.relativeTo_eq_iff a b p, Location.relativeTo_idem a p,
    Location.relativeTo_comm a p q, ?_⟩
  intro chain valid
  refine ⟨?_, ?_⟩
  · intro numbered
    obtain ⟨path, own⟩ := ownView_defaultAsset valid
    have seen := own
    rw [ownView_of_paraId numbered] at seen
    refine ⟨path, seen, ?_⟩
    intro l
    rw [isNativeLocation_iff, own, ownView_of_paraId numbered, Location.relativeTo_eq_inner]
  · intro homeless l
    rw [isNativeLocation_iff, ownView_of_homeless homeless, ownView_of_homeless homeless]

def Sample.relay : Chain :=
  { Chain.turing with key := "relay", paraId := none, defaultAsset := ⟨"ROC", 12, .here, true⟩ }

/-- The currency of a pallet, by its two names and not by that of its chain; and a currency that has
only the name that its chain has for it. -/
theorem names_of_place_moonbase :
    (Chain.moonbase.validate = .ok () ∧
      ∃ path, Chain.moonbase.defaultAsset.location.relativeTo 1000 = .inner path ∧
        path.toList = [.palletInstance 3] ∧
        Chain.moonbase.isNativeLocation (.inner path) = true ∧
        (∃ room, Chain.moonbase.isNativeLocation (.outer 1000 path room) = true) ∧
        Chain.moonbase.isNativeLocation (.siblingParachain 1000) = false) ∧
      Sample.relay.validate = .ok () ∧ Sample.relay.isNativeLocation .here = true ∧
      Sample.relay.isNativeLocation (.siblingParachain 1000) = false := by
  have valid : Chain.moonbase.validate = .ok () := by
    apply eq_ok_of_toOption
    decide +kernel
  have valid' : Sample.relay.validate = .ok () := by
    apply eq_ok_of_toOption
    decide +kernel
  obtain ⟨-, -, -, named⟩ := names_of_place 1000 2000 .here .here
  obtain ⟨path, seen, native⟩ := (named Chain.moonbase valid).1 rfl
  have alone := (named Sample.relay valid').2 rfl
  have pallet : path = .one (.palletInstance 3) := by
    rw [← Location.inner_inj, ← seen]
    decide
  subst pallet
  refine ⟨⟨valid, _, seen, rfl, ?_, ?_, by decide⟩, valid', ?_, by decide⟩
  · exact (native _).mpr (.inl rfl)
  · have room : (Junctions.one (.palletInstance 3)).length < maxJunctions := by decide
    exact ⟨room, (native _).mpr (.inr ⟨room, rfl⟩)⟩
  · exact (alone _).mpr rfl

end Chain

end XcmTasks

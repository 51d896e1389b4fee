import XcmTasks.Proofs.Adapter.Asking
import XcmTasks.Registry

/-!
Connecting and disconnecting change the links of adapters and nothing else of a registry: the chains
stay where they are, under the same keys.
-/

namespace XcmTasks

open Dialogue hiding bind_assoc

namespace Adapter

def KeepsChain (f : Adapter → Talk (Except AdapterError Unit × Adapter)) : Prop :=
  ∀ {a a' : Adapter} {t : Transcript} {result : Except AdapterError Unit},
    Runs (f a) t (result, a') → a'.chain = a.chain

theorem keepsChain_connect : KeepsChain connect := by
  intro a a' t result h
  cases runs_connect.mp h <;> rfl

theorem keepsChain_disconnect : KeepsChain disconnect := by
  intro a a' t result h
  cases runs_disconnect.mp h <;> rfl

theorem keepsChain_release : KeepsChain Registry.release := by
  intro a a' t result h
  unfold Registry.release at h
  by_cases hr : a.isReady = true
  · rw [if_pos hr, runs_bind] at h
    obtain ⟨_, _, ⟨_, a''⟩, hd, h, _⟩ := h
    obtain ⟨-, h⟩ := runs_pure.mp h
    cases h
    exact keepsChain_disconnect hd
  · rw [if_neg hr] at h
    obtain ⟨-, h⟩ := runs_pure.mp h
    cases h
    rfl

end Adapter

namespace Registry

variable {r r' r'' : Registry} {t : Transcript}
variable {result : Except AdapterError Unit}

/-- The registries hold the same chains at the same places, linked or not. -/
structure Relinked (r r' : Registry) : Prop where
  positions : r'.positions = r.positions
  origins : r'.origins = r.origins
  chains : r'.adapters.map Adapter.chain = r.adapters.map Adapter.chain

theorem Relinked.refl (r : Registry) : Relinked r r := ⟨rfl, rfl, rfl⟩

theorem Relinked.trans (h : Relinked r r') (h' : Relinked r' r'') : Relinked r r'' :=
  ⟨h'.positions.trans h.positions, h'.origins.trans h.origins, h'.chains.trans h.chains⟩

theorem relinked_update {position : Nat}
    {f : Adapter → Talk (Except AdapterError Unit × Adapter)} (hf : Adapter.KeepsChain f)
    (h : Runs (r.update position f) t (result, r')) : Relinked r r' := by
  unfold update at h
  cases ha : r.adapters[position]? with
  | none =>
    simp only [ha] at h
    obtain ⟨-, h⟩ := runs_pure.mp h
    cases h
    exact .refl _
  | some a =>
    simp only [ha, runs_bind] at h
    obtain ⟨_, _, ⟨_, a'⟩, hfa, h, _⟩ := h
    obtain ⟨-, h⟩ := runs_pure.mp h
    cases h
    refine ⟨rfl, rfl, ?_⟩
    obtain ⟨hlt, -⟩ := List.getElem?_eq_some_iff.mp ha
    apply List.ext_getElem?
    intro i
    rw [List.getElem?_map, List.getElem?_map, List.getElem?_set]
    by_cases hi : position = i
    · subst hi
      rw [if_pos rfl, if_pos hlt, ha]
      exact congrArg some (hf hfa)
    · rw [if_neg hi]

theorem relinked_updateKey {key : String}
    {f : Adapter → Talk (Except AdapterError Unit × Adapter)} (hf : Adapter.KeepsChain f)
    (h : Runs (r.updateKey key f) t (result, r')) : Relinked r r' := by
  unfold updateKey at h
  cases hp : r.positions.get? key with
  | some position =>
    simp only [hp] at h
    exact relinked_update hf h
  | none =>
    simp only [hp] at h
    obtain ⟨-, h⟩ := runs_pure.mp h
    cases h
    exact .refl _

theorem relinked_connectEach {positions : List Nat}
    (h : Runs (connectEach positions r) t (result, r')) : Relinked r r' := by
  induction positions generalizing r t with
  | nil =>
    obtain ⟨-, h⟩ := runs_pure.mp h
    cases h
    exact .refl _
  | cons position others ih =>
    rw [connectEach, runs_bind] at h
    obtain ⟨_, _, ⟨e | _, r₁⟩, hu, h, _⟩ := h
    · obtain ⟨-, h⟩ := runs_pure.mp h
      cases h
      exact relinked_update Adapter.keepsChain_connect hu
    · exact (relinked_update Adapter.keepsChain_connect hu).trans (ih h)

theorem relinked_disconnectEach {positions : List Nat}
    (h : Runs (disconnectEach positions r) t r') : Relinked r r' := by
  induction positions generalizing r t with
  | nil =>
    obtain ⟨-, h⟩ := runs_pure.mp h
    cases h
    exact .refl _
  | cons position others ih =>
    rw [disconnectEach, runs_bind] at h
    obtain ⟨_, _, ⟨_, r₁⟩, hu, h, _⟩ := h
    exact (relinked_update Adapter.keepsChain_release hu).trans (ih h)

theorem Relinked.find? (h : Relinked r r') (table : Table Nat) (key : String) :
    (find? table r' key).map Adapter.chain = (find? table r key).map Adapter.chain := by
  unfold Registry.find?
  cases table.get? key with
  | none => rfl
  | some position =>
    change r'.adapters[position]?.map Adapter.chain = r.adapters[position]?.map Adapter.chain
    rw [← List.getElem?_map, ← List.getElem?_map, h.chains]

theorem Relinked.origin {key : String} {a : Adapter} (h : Relinked r r')
    (ho : r.origin key = .ok a) : ∃ a', r'.origin key = .ok a' ∧ a'.chain = a.chain := by
  unfold Registry.origin at ho
  cases hf : Registry.find? r.origins r key with
  | none =>
    rw [hf] at ho
    cases ho
  | some b =>
    rw [hf] at ho
    cases ho
    have same := h.find? r.origins key
    rw [hf] at same
    obtain ⟨a', hf', hc⟩ := Option.map_eq_some_iff.mp same
    refine ⟨a', ?_, hc⟩
    unfold Registry.origin
    rw [h.origins, hf']

end Registry

end XcmTasks

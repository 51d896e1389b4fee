import Mathlib.Data.List.Induction
import XcmTasks.Chain.Local
import XcmTasks.Proofs.Registering

/-!
Registrations one after another, of which some may fail. A registration looks at the key, has the
adapter made, and only then changes the tables, so that one that fails leaves no trace. The table of
origins stays the part of the table of all adapters that is of the right family.
-/

namespace XcmTasks

/-- The adapter for a chain of a family. The chain has to be of this family, and valid. -/
def Adapter.ofFamily (family : ChainFamily) (chain : Chain) : Except AdapterError Adapter :=
  if chain.family = family then
    match chain.validate with
    | .ok () => .ok (.new chain)
    | .error e => .error (.ofChain e)
  else
    .error (.configuration
      ("chain " ++ chain.key ++ " is a " ++ chain.family.text ++ " chain, not " ++ family.text))

theorem Adapter.ofFamily_own (chain : Chain) :
    Adapter.ofFamily chain.family chain =
      (chain.validate.mapError .ofChain).map fun _ => .new chain := by
  unfold ofFamily
  rw [if_pos rfl]
  cases chain.validate <;> rfl

namespace Registry

/-! ### Registering as a change -/

def store (chain : Chain) (position : Nat) : ExceptT AdapterError (StateM Registry) Unit := do
  if chain.family = .oak then
    let a ← liftExcept (Adapter.ofFamily .oak chain)
    modify fun r => { r with adapters := r.adapters ++ [a] }
    modify fun r => { r with origins := r.origins.insert chain.key position }
    modify fun r => { r with positions := r.positions.insert chain.key position }
  else
    let a ← liftExcept (Adapter.ofFamily chain.family chain)
    modify fun r => { r with adapters := r.adapters ++ [a] }
    modify fun r => { r with positions := r.positions.insert chain.key position }

/-- What registering does to a registry, in the order in which it is done. -/
def enrol (chain : Chain) : ExceptT AdapterError (StateM Registry) Unit := do
  let r ← getThe Registry
  if r.positions.contains chain.key then
    throw (.configuration ("chain " ++ chain.key ++ " is configured twice"))
  else store chain r.adapters.length

/-- Registering, with the registry that is there afterwards. -/
def attempt (r : Registry) (chain : Chain) : Except AdapterError Unit × Registry :=
  match r.register chain with
  | .ok r' => (.ok (), r')
  | .error e => (.error e, r)

variable {r r' : Registry} {chain : Chain} {chains : List Chain}

theorem run_store (r : Registry) (chain : Chain) (position : Nat) :
    (store chain position).run r =
      match chain.validate with
      | .error e => (.error (.ofChain e), r)
      | .ok () => (.ok (), {
          adapters := r.adapters ++ [.new chain]
          positions := r.positions.insert chain.key position
          origins :=
            if chain.family = .oak then r.origins.insert chain.key position else r.origins }) := by
  have made := Adapter.ofFamily_own chain
  unfold store
  by_cases hf : chain.family = .oak
  · rw [hf] at made
    rw [if_pos hf, if_pos hf, made]
    cases chain.validate <;> rfl
  · rw [if_neg hf, if_neg hf, made]
    cases chain.validate <;> rfl

theorem run_enrol (r : Registry) (chain : Chain) : (enrol chain).run r = r.attempt chain := by
  have unfolded : (enrol chain).run r =
      (if r.positions.contains chain.key then
        throw (.configuration ("chain " ++ chain.key ++ " is configured twice"))
      else store chain r.adapters.length : ExceptT AdapterError (StateM Registry) Unit).run r := rfl
  rw [unfolded]
  unfold attempt register
  by_cases hc : r.positions.contains chain.key = true
  · rw [if_pos hc, if_pos hc]
    rfl
  · rw [if_neg hc, if_neg hc, run_store]
    cases chain.validate <;> rfl

theorem attempt_eq_error_iff :
    (∃ e, (r.attempt chain).1 = .error e) ↔ chain.key ∈ r.keys ∨ chain.validate ≠ .ok () := by
  have succeeds : (∃ r', r.register chain = .ok r') ↔
      chain.key ∉ r.keys ∧ chain.validate = .ok () :=
    register_eq_ok_iff
  unfold attempt
  cases hr : r.register chain with
  | ok r' =>
    obtain ⟨fresh, valid⟩ := succeeds.mp ⟨r', hr⟩
    simp [fresh, valid]
  | error e =>
    have refused : ¬ (chain.key ∉ r.keys ∧ chain.validate = .ok ()) := by
      intro h
      obtain ⟨r', hr'⟩ := succeeds.mpr h
      cases hr.symm.trans hr'
    simp only [Except.error.injEq, exists_eq', true_iff]
    by_cases known : chain.key ∈ r.keys
    · exact .inl known
    · exact .inr fun valid => refused ⟨known, valid⟩

theorem attempt_of_error {e : AdapterError} (h : (r.attempt chain).1 = .error e) :
    (r.attempt chain).2 = r := by
  unfold attempt at h ⊢
  cases hr : r.register chain with
  | ok r' =>
    rw [hr] at h
    cases h
  | error e => rfl

theorem register_of_attempt (h : (r.attempt chain).1 = .ok ()) :
    r.register chain = .ok (r.attempt chain).2 := by
  unfold attempt at h ⊢
  cases hr : r.register chain with
  | ok r' => rfl
  | error e =>
    rw [hr] at h
    cases h

/-! ### One registration after another -/

/-- The registry after these registrations, whether or not they came about. -/
def enrolled (calls : List Chain) : Registry :=
  calls.foldl (fun r chain => ((enrol chain).run r).2) empty

theorem enrolled_concat (calls : List Chain) (chain : Chain) :
    enrolled (calls ++ [chain]) = ((enrolled calls).attempt chain).2 := by
  unfold enrolled
  rw [List.foldl_append, List.foldl_cons, List.foldl_nil, run_enrol]

theorem Holds.attempt (h : Holds chains r) (hv : ∀ c ∈ chains, c.validate = .ok ()) :
    ∃ chains', Holds chains' (r.attempt chain).2 ∧ ∀ c ∈ chains', c.validate = .ok () := by
  cases hr : (r.attempt chain).1 with
  | error e =>
    rw [attempt_of_error hr]
    exact ⟨chains, h, hv⟩
  | ok u =>
    have registered := register_of_attempt hr
    have valid := (register_eq_ok_iff.mp ⟨_, registered⟩).2
    refine ⟨chains ++ [chain], h.register registered, ?_⟩
    simpa [or_imp, forall_and] using ⟨hv, valid⟩

theorem holds_enrolled (calls : List Chain) :
    ∃ chains, Holds chains (enrolled calls) ∧ ∀ c ∈ chains, c.validate = .ok () := by
  induction calls using List.reverseRecOn with
  | nil => exact ⟨[], holds_empty, List.forall_mem_nil _⟩
  | append_singleton calls chain ih =>
    obtain ⟨chains, h, hv⟩ := ih
    rw [enrolled_concat]
    exact h.attempt hv

structure InStep (r : Registry) : Prop where
  /-- Under a key is the adapter of a valid chain with this key. -/
  keyed : ∀ key i, r.positions.get? key = some i →
    ∃ a, r.adapters[i]? = some a ∧ a.key = key ∧ a.chain.validate = .ok ()
  named : ∀ i a, r.adapters[i]? = some a → r.positions.get? a.key = some i
  /-- An origin is the same adapter in both tables. -/
  origins : ∀ key i, r.origins.get? key = some i ↔
    r.positions.get? key = some i ∧ ∃ a, r.adapters[i]? = some a ∧ a.chain.family = .oak

theorem Holds.inStep (h : Holds chains r) (hv : ∀ c ∈ chains, c.validate = .ok ()) : InStep r := by
  have stored (i : Nat) : r.adapters[i]? = chains[i]?.map Adapter.new := by
    rw [h.adapters, List.getElem?_map]
  refine ⟨?_, ?_, ?_⟩
  · intro key i hi
    obtain ⟨chain, hc, hk, -⟩ := (h.positions key i).mp hi
    refine ⟨.new chain, ?_, hk, hv chain (List.mem_of_getElem? hc)⟩
    rw [stored, hc]
    rfl
  · intro i a ha
    rw [stored] at ha
    obtain ⟨chain, hc, rfl⟩ := Option.map_eq_some_iff.mp ha
    exact (h.positions _ i).mpr ⟨chain, hc, rfl, trivial⟩
  · intro key i
    rw [h.origins, h.positions, stored]
    refine ⟨?_, ?_⟩
    · rintro ⟨chain, hc, hk, hf⟩
      rw [hc]
      exact ⟨⟨chain, rfl, hk, trivial⟩, .new chain, rfl, hf⟩
    · rintro ⟨⟨chain, hc, hk, -⟩, a, ha, hf⟩
      rw [hc] at ha
      cases ha
      exact ⟨chain, hc, hk, hf⟩

/-! ### All chains at once -/

theorem of_foldlM {more : List Chain} (h : Holds chains r)
    (hr : more.foldlM Registry.register r = .ok r') (hk : (chains.map Chain.key).Nodup) :
    ((chains ++ more).map Chain.key).Nodup ∧ ∀ c ∈ more, c.validate = .ok () := by
  induction more generalizing chains r with
  | nil => simpa using hk
  | cons chain more ih =>
    obtain ⟨r₁, hr₁, hr⟩ := bind_eq_ok hr
    obtain ⟨fresh, valid⟩ := register_eq_ok_iff.mp ⟨r₁, hr₁⟩
    have new : chain.key ∉ chains.map Chain.key := by
      intro known
      exact fresh (h.mem_keys.mpr (List.mem_map.mp known))
    have apart : ((chains ++ [chain]).map Chain.key).Nodup := by
      rw [List.map_append]
      exact hk.append (List.nodup_singleton _) (by simpa using new)
    obtain ⟨nodup, valids⟩ := ih (h.register hr₁) hr apart
    rw [List.append_cons]
    exact ⟨nodup, List.forall_mem_cons.mpr ⟨valid, valids⟩⟩

theorem foldlM_register_eq_foldl {more : List Chain}
    (hr : more.foldlM Registry.register r = .ok r') :
    more.foldl (fun r chain => ((enrol chain).run r).2) r = r' := by
  induction more generalizing r with
  | nil =>
    cases hr
    rfl
  | cons chain more ih =>
    obtain ⟨r₁, hr₁, hr⟩ := bind_eq_ok hr
    have first : ((enrol chain).run r).2 = r₁ := by
      rw [run_enrol, attempt, hr₁]
    rw [List.foldl_cons, first]
    exact ih hr

theorem ofChains_eq_ok_iff :
    (∃ r, ofChains chains = .ok r) ↔
      (chains.map Chain.key).Nodup ∧ ∀ c ∈ chains, c.validate = .ok () := by
  refine ⟨?_, ?_⟩
  · rintro ⟨r, hr⟩
    exact of_foldlM holds_empty hr List.nodup_nil
  · rintro ⟨nodup, valid⟩
    exact exists_ofChains nodup valid

theorem keys_of_ofChains (hr : ofChains chains = .ok r) :
    r.keys.Pairwise (· < ·) ∧ r.keys.Perm (chains.map Chain.key) := by
  have ascending := r.positions.keys_ascending
  have apart : r.keys.Nodup := by
    apply ascending.imp
    intro a b less same
    exact String.lt_irrefl b (same ▸ less)
  refine ⟨ascending, (List.perm_ext_iff_of_nodup apart (ofChains_eq_ok_iff.mp ⟨r, hr⟩).1).mpr ?_⟩
  intro key
  rw [(holds_ofChains hr).mem_keys, List.mem_map]

/-- After any registrations the tables are in step. The next one fails just if its key is taken or
its chain is not valid, and then changes nothing. All of them come about just if no key is repeated
and all chains are valid, and the keys are then in ascending order. -/
theorem enrolled_in_step (calls : List Chain) :
    InStep (enrolled calls) ∧
      (∀ chain,
        (enrol chain).run (enrolled calls) = (enrolled calls).attempt chain ∧
        ((∃ e, ((enrolled calls).attempt chain).1 = .error e) ↔
          chain.key ∈ (enrolled calls).keys ∨ chain.validate ≠ .ok ()) ∧
        (∀ e, ((enrolled calls).attempt chain).1 = .error e →
          enrolled (calls ++ [chain]) = enrolled calls) ∧
        (((enrolled calls).attempt chain).1 = .ok () →
          (enrolled (calls ++ [chain])).adapters = (enrolled calls).adapters ++ [.new chain])) ∧
      ((∃ r, ofChains calls = .ok r) ↔
        (calls.map Chain.key).Nodup ∧ ∀ chain ∈ calls, chain.validate = .ok ()) ∧
      ∀ r, ofChains calls = .ok r →
        r = enrolled calls ∧ r.keys.Pairwise (· < ·) ∧ r.keys.Perm (calls.map Chain.key) := by
  obtain ⟨chains, holds, valid⟩ := holds_enrolled calls
  refine ⟨holds.inStep valid, ?_, ofChains_eq_ok_iff, ?_⟩
  · intro chain
    refine ⟨run_enrol _ chain, attempt_eq_error_iff, ?_, ?_⟩
    · intro e h
      rw [enrolled_concat, attempt_of_error h]
    · intro h
      rw [enrolled_concat, (holds.register (register_of_attempt h)).adapters, holds.adapters,
        List.map_append, List.map_singleton]
  · intro r hr
    exact ⟨(foldlM_register_eq_foldl hr).symm, keys_of_ofChains hr⟩

/-- A second chain under a key is refused, and the first one stays. -/
theorem enrolled_in_step_turing :
    InStep (enrolled [.turing, .moonbase]) ∧
      enrolled [.turing, .moonbase, .turing] = enrolled [.turing, .moonbase] := by
  obtain ⟨inStep, next, -⟩ := enrolled_in_step [.turing, .moonbase]
  obtain ⟨-, fails, kept, -⟩ := next .turing
  obtain ⟨e, he⟩ := fails.mpr (.inl (by decide +kernel))
  exact ⟨inStep, kept e he⟩

end Registry

end XcmTasks

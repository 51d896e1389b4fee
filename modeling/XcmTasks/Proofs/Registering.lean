import XcmTasks.Proofs.Results
import XcmTasks.Proofs.Table
import XcmTasks.Registry

/-!
What a registry holds once chains have been registered. The tables of a registry name adapters by
their positions, so each table is a view of one list of chains. A chain is registered if its key is
new and it is valid, and the chains before it stay where they are.
-/

namespace XcmTasks.Registry

/-! ### Tables of positions -/

/-- The table has the positions of the chains of that kind under their keys. -/
def Places (p : Chain → Prop) (chains : List Chain) (table : Table Nat) : Prop :=
  ∀ key i, table.get? key = some i ↔ ∃ chain, chains[i]? = some chain ∧ chain.key = key ∧ p chain

section
variable {p : Chain → Prop} {chains : List Chain} {chain : Chain} {table : Table Nat}

theorem places_empty : Places p [] .empty := by
  intro key i
  simp [Table.get?, Table.empty]

theorem getElem?_concat_eq_some {i : Nat} {c : Chain} :
    (chains ++ [chain])[i]? = some c ↔
      chains[i]? = some c ∨ i = chains.length ∧ c = chain := by
  by_cases hi : i < chains.length
  · have hne : i ≠ chains.length := by omega
    simp [List.getElem?_append_left hi, hne]
  · have hle : chains.length ≤ i := by omega
    have none : chains[i]? = none := List.getElem?_eq_none hle
    rw [List.getElem?_append_right hle, none]
    by_cases he : i = chains.length
    · simp [he, eq_comm]
    · have far : i - chains.length ≠ 0 := by omega
      simp [he, far]

/-- A chain with a new key goes behind the others. -/
theorem Places.insert (h : Places p chains table) (fresh : ∀ c ∈ chains, c.key ≠ chain.key)
    (hp : p chain) : Places p (chains ++ [chain]) (table.insert chain.key chains.length) := by
  intro key i
  rw [Table.get?_insert]
  simp only [getElem?_concat_eq_some]
  by_cases hk : key = chain.key
  · rw [if_pos hk, Option.some_inj]
    refine ⟨?_, ?_⟩
    · rintro rfl
      exact ⟨chain, .inr ⟨rfl, rfl⟩, hk.symm, hp⟩
    · rintro ⟨c, hc | ⟨rfl, -⟩, hkey, -⟩
      · exact absurd (hkey.trans hk) (fresh c (List.mem_of_getElem? hc))
      · rfl
  · rw [if_neg hk, h]
    refine ⟨?_, ?_⟩
    · rintro ⟨c, hc, hkey⟩
      exact ⟨c, .inl hc, hkey⟩
    · rintro ⟨c, hc | ⟨-, rfl⟩, hkey⟩
      · exact ⟨c, hc, hkey⟩
      · exact absurd hkey.1.symm hk

theorem Places.skip (h : Places p chains table) (hp : ¬ p chain) :
    Places p (chains ++ [chain]) table := by
  intro key i
  rw [h]
  simp only [getElem?_concat_eq_some]
  refine ⟨?_, ?_⟩
  · rintro ⟨c, hc, hkey⟩
    exact ⟨c, .inl hc, hkey⟩
  · rintro ⟨c, hc | ⟨-, rfl⟩, hkey⟩
    · exact ⟨c, hc, hkey⟩
    · exact absurd hkey.2 hp

theorem Places.mem_keys (h : Places p chains table) (key : String) :
    key ∈ table.keys ↔ ∃ chain ∈ chains, chain.key = key ∧ p chain := by
  rw [Table.mem_keys_iff]
  refine ⟨?_, ?_⟩
  · rintro ⟨i, hi⟩
    obtain ⟨chain, hc, hkey⟩ := (h key i).mp hi
    exact ⟨chain, List.mem_of_getElem? hc, hkey⟩
  · rintro ⟨chain, hc, hkey⟩
    obtain ⟨i, hi⟩ := List.mem_iff_getElem?.mp hc
    exact ⟨i, (h key i).mpr ⟨chain, hi, hkey⟩⟩

theorem Places.find? (h : Places p chains table) {r : Registry}
    (ha : r.adapters = chains.map Adapter.new) (key : String) (a : Adapter) :
    Registry.find? table r key = some a ↔
      ∃ chain ∈ chains, (chain.key = key ∧ p chain) ∧ a = .new chain := by
  unfold Registry.find?
  rw [ha]
  simp only [Option.bind_eq_bind, Option.bind_eq_some_iff, List.getElem?_map,
    Option.map_eq_some_iff]
  refine ⟨?_, ?_⟩
  · rintro ⟨i, hi, c, hc, rfl⟩
    obtain ⟨chain, hchain, hkey⟩ := (h key i).mp hi
    cases hc.symm.trans hchain
    exact ⟨c, List.mem_of_getElem? hc, hkey, rfl⟩
  · rintro ⟨chain, hc, hkey, rfl⟩
    obtain ⟨i, hi⟩ := List.mem_iff_getElem?.mp hc
    exact ⟨i, (h key i).mpr ⟨chain, hi, hkey⟩, chain, hi, rfl⟩

end

/-! ### Registering -/

/-- The registry holds the adapters of these chains, none of them connected. -/
structure Holds (chains : List Chain) (r : Registry) : Prop where
  adapters : r.adapters = chains.map Adapter.new
  positions : Places (fun _ => True) chains r.positions
  origins : Places (fun chain => chain.family = .oak) chains r.origins

section
variable {chains : List Chain} {chain : Chain} {r r' : Registry} {key : String} {a : Adapter}

theorem holds_empty : Holds [] empty := ⟨rfl, places_empty, places_empty⟩

theorem Holds.mem_keys (h : Holds chains r) : key ∈ r.keys ↔ ∃ chain ∈ chains, chain.key = key := by
  have found := h.positions.mem_keys key
  simp only [and_true] at found
  exact found

theorem Holds.get (h : Holds chains r) :
    r.get key = .ok a ↔ ∃ chain ∈ chains, chain.key = key ∧ a = .new chain := by
  have found := h.positions.find? h.adapters key a
  simp only [and_true] at found
  rw [← found]
  unfold Registry.get
  cases Registry.find? r.positions r key <;> simp

theorem Holds.origin (h : Holds chains r) :
    r.origin key = .ok a ↔
      ∃ chain ∈ chains, (chain.key = key ∧ chain.family = .oak) ∧ a = .new chain := by
  rw [← h.origins.find? h.adapters]
  unfold Registry.origin
  cases Registry.find? r.origins r key <;> simp

theorem register_eq_ok_iff :
    (∃ r', r.register chain = .ok r') ↔ chain.key ∉ r.keys ∧ chain.validate = .ok () := by
  unfold register
  by_cases hc : r.positions.contains chain.key = true
  · have known : chain.key ∈ r.keys := Table.contains_iff.mp hc
    simp [hc, known]
  · have fresh : chain.key ∉ r.keys := fun hk => hc (Table.contains_iff.mpr hk)
    rw [if_neg hc]
    cases chain.validate <;> simp [fresh]

theorem Holds.register (h : Holds chains r) (hr : r.register chain = .ok r') :
    Holds (chains ++ [chain]) r' := by
  obtain ⟨hk, hv⟩ := register_eq_ok_iff.mp ⟨r', hr⟩
  have fresh : ∀ c ∈ chains, c.key ≠ chain.key := fun c hc he => hk (h.mem_keys.mpr ⟨c, hc, he⟩)
  have count : r.adapters.length = chains.length := by
    rw [h.adapters, List.length_map]
  have unknown : ¬ r.positions.contains chain.key = true := fun hc => hk (Table.contains_iff.mp hc)
  unfold Registry.register at hr
  rw [if_neg unknown, hv] at hr
  cases hr
  refine ⟨?_, ?_, ?_⟩
  · simp [h.adapters]
  · rw [count]
    exact h.positions.insert fresh trivial
  · rw [count]
    by_cases hf : chain.family = .oak
    · rw [if_pos hf]
      exact h.origins.insert fresh hf
    · rw [if_neg hf]
      exact h.origins.skip hf

theorem Holds.foldlM {more : List Chain} (h : Holds chains r)
    (hr : more.foldlM Registry.register r = .ok r') : Holds (chains ++ more) r' := by
  induction more generalizing chains r with
  | nil =>
    cases hr
    rw [List.append_nil]
    exact h
  | cons chain more ih =>
    obtain ⟨r₁, hr₁, hr⟩ := bind_eq_ok hr
    rw [List.append_cons]
    exact ih (h.register hr₁) hr

theorem holds_ofChains (hr : ofChains chains = .ok r) : Holds chains r := holds_empty.foldlM hr

/-- Valid chains with different keys are all registered, behind those that are there. -/
theorem exists_foldlM {more : List Chain} (h : Holds chains r)
    (hk : ((chains ++ more).map Chain.key).Nodup) (hv : ∀ c ∈ more, c.validate = .ok ()) :
    ∃ r', more.foldlM Registry.register r = .ok r' := by
  -- the chains that are there grow, so that the keys of all of them stay apart
  induction more generalizing chains r with
  | nil => exact ⟨r, rfl⟩
  | cons chain more ih =>
    have fresh : chain.key ∉ r.keys := by
      intro hm
      obtain ⟨c, hc, he⟩ := h.mem_keys.mp hm
      rw [List.map_append, List.nodup_append] at hk
      exact hk.2.2 c.key (List.mem_map_of_mem hc) chain.key (by simp) he
    obtain ⟨r₁, hr₁⟩ := register_eq_ok_iff.mpr ⟨fresh, hv chain List.mem_cons_self⟩
    rw [List.append_cons] at hk
    obtain ⟨r', hr'⟩ := ih (h.register hr₁) hk fun c hc => hv c (List.mem_cons_of_mem _ hc)
    refine ⟨r', ?_⟩
    rw [List.foldlM_cons, hr₁]
    exact hr'

theorem exists_ofChains (hk : (chains.map Chain.key).Nodup)
    (hv : ∀ chain ∈ chains, chain.validate = .ok ()) : ∃ r, ofChains chains = .ok r :=
  exists_foldlM holds_empty hk hv

end

end XcmTasks.Registry

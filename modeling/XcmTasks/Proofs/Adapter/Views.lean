import XcmTasks.Proofs.Adapter.Errands
import XcmTasks.Proofs.Adapter.Fees
import XcmTasks.Proofs.Scale.Record
import XcmTasks.Proofs.StorageKey

/-!
Assets that are named in different ways. A chain looks an asset up under the location that it sees
it at, so two ways of writing one asset come to the same price by the same requests. The entries of
a registry are kept under whole encoded locations, so two assets never come to one entry.
-/

namespace XcmTasks

open Dialogue hiding bind_assoc
open Function Canonical

/-! ### Entries of registries -/

theorem encode_injective {α : Type} [Scale α] [Canonical α] (h : ∀ a : α, Fits a) :
    Injective (encode : α → Bytes) := by
  intro a b heq
  exact encode_inj (h a) (h b) heq

theorem ChainFamily.idEntry_key_injective (family : ChainFamily) :
    Injective fun own => (family.idEntry own).key := by
  intro own own' h
  cases family with
  | oak =>
    have encoded := StorageKey.entry_injective _ _ rfl h
    exact encode_injective (fun _ => trivial) encoded
  | mangata =>
    have encoded := StorageKey.entry_injective _ _ rfl h
    exact encode_injective (fun _ => trivial) encoded
  | moonbeam =>
    have encoded := StorageKey.entry_injective _ _ rfl h
    cases encode_injective (fun _ : AssetType => trivial) encoded
    rfl
  | astar =>
    have encoded := StorageKey.entry_injective _ _ rfl h
    cases encode_injective (fun _ : VersionedLocation => trivial) encoded
    rfl

/-! ### Errors -/

def AdapterError.renamed (asset : String) : AdapterError → AdapterError
  | .unresolvedAsset chain _ reason => .unresolvedAsset chain asset reason
  | e => e

theorem AdapterError.renamed_ofNode (asset : String) (e : NodeError) :
    (ofNode e).renamed asset = ofNode e := by
  cases e <;> rfl

namespace Adapter

section
variable {a : Adapter} {t : Transcript} {x y own : Location}

theorem renamed_of_lookup {α : Type} [Scale α] {key : StorageKey} {what : String}
    {e : AdapterError} (h : Lookup a α key what t (.error e)) (asset : String) :
    e.renamed asset = e := by
  cases h with
  | unlinked => rfl
  | unanswered => exact AdapterError.renamed_ofNode asset _
  | undecodable => rfl

/-! ### One asset by two names -/

theorem Rating.renamed {r : Except AdapterError UInt128} (h : Rating a x own t r) :
    Rating a y own t (r.mapError (.renamed y.describe)) := by
  let := a.rates.scaleId
  let := a.rates.scaleEntry
  cases h with
  | idFailed hi =>
    rw [Except.mapError, renamed_of_lookup hi]
    exact .idFailed hi
  | unregistered hi => exact .unregistered hi
  | entryFailed hi he =>
    rw [Except.mapError, renamed_of_lookup he]
    exact .entryFailed hi he
  | unrated hi he hr => exact .unrated hi he hr
  | rated hi he hr => exact .rated hi he hr

/-- A chain that sees both at the same place goes the same way with both. -/
theorem Pricing.renamed {weight : Weight} {p : UInt32} {r : Except AdapterError UInt128}
    (hp : a.chain.paraId = some p) (hv : x.relativeTo p = y.relativeTo p)
    (h : Pricing a weight x t r) : Pricing a weight y t (r.mapError (.renamed y.describe)) := by
  have native : a.chain.isNativeLocation x = a.chain.isNativeLocation y := by
    have seen : a.chain.ownView x = a.chain.ownView y := by
      rw [Chain.ownView_of_paraId hp, Chain.ownView_of_paraId hp, hv]
    unfold Chain.isNativeLocation
    rw [seen]
  -- the place at which the rate was looked up
  have place {paraId : UInt32} (hp' : a.chain.paraId = some paraId) :
      x.relativeTo paraId = y.relativeTo paraId := by
    cases hp.symm.trans hp'
    exact hv
  cases h with
  | nativeUnlinked hn hl => exact .nativeUnlinked (native ▸ hn) hl
  | nativeUnanswered hn hl =>
    rw [Except.mapError, AdapterError.renamed_ofNode]
    exact .nativeUnanswered (native ▸ hn) hl
  | nativePriced hn hl => exact .nativePriced (native ▸ hn) hl
  | homeless hn hp' => exact .homeless (native ▸ hn) hp'
  | unrated hn hp' hr => exact .unrated (native ▸ hn) hp' (place hp' ▸ hr.renamed)
  | overflowing hn hp' hr hf =>
    exact .overflowing (native ▸ hn) hp' (place hp' ▸ hr.renamed) hf
  | priced hn hp' hr hf => exact .priced (native ▸ hn) hp' (place hp' ▸ hr.renamed) hf

end

/-! ### Two assets -/

def keyRead? : Exchange Action Action.Answer → Option StorageKey
  | ⟨.send _ (.storage key), _⟩ => some key
  | _ => none

def keysRead (t : Transcript) : List StorageKey := t.filterMap keyRead?

section
variable {a : Adapter} {link : Link} {p : UInt32} {t : Transcript}

/-- The first entry that is read for a foreign asset is that with its id. -/
theorem keysRead_foreign {weight : Weight} {asset : Location} {r : Except AdapterError UInt128}
    (hl : a.link = some link) (hp : a.chain.paraId = some p)
    (hn : a.chain.isNativeLocation asset = false) (h : Pricing a weight asset t r) :
    (keysRead t).head? = some (a.chain.family.idEntry (asset.relativeTo p)).key := by
  obtain ⟨rate, hr, -⟩ := (pricing_foreign hn hp).mp h
  cases (rating_iff hl).mp hr <;> rfl

/-- What an asset costs on a chain depends on where the chain sees it, and the chain looks at one
entry for two assets only if it sees them at the same place. -/
theorem weightToFee_view (hl : a.link = some link) (hp : a.chain.paraId = some p)
    (x y : Location) :
    (x.relativeTo p = y.relativeTo p →
      ∀ (σ : Type) (answer : (q : Action) → σ → q.Answer × σ) (s : σ) (weight : Weight),
        (a.weightToFee weight y).run.exchanges answer s =
            (a.weightToFee weight x).run.exchanges answer s ∧
          (a.weightToFee weight y).run.run answer s =
            (((a.weightToFee weight x).run.run answer s).1.mapError (.renamed y.describe),
              ((a.weightToFee weight x).run.run answer s).2)) ∧
    (a.chain.isNativeLocation x = false → a.chain.isNativeLocation y = false →
      ∀ {weight weight' : Weight} {t t' : Transcript} {r r' : Except AdapterError UInt128},
        Runs (a.weightToFee weight x).run t r → Runs (a.weightToFee weight' y).run t' r' →
          ∃ key key', (keysRead t).head? = some key ∧ (keysRead t').head? = some key' ∧
            (key = key' ↔ x.relativeTo p = y.relativeTo p)) := by
  refine ⟨?_, ?_⟩
  · intro hv σ answer s weight
    refine run_of_runs ?_ answer s
    intro t r h
    exact runs_weightToFee.mpr ((runs_weightToFee.mp h).renamed hp hv)
  · intro hx hy weight weight' t t' r r' h h'
    refine ⟨_, _, keysRead_foreign hl hp hx (runs_weightToFee.mp h),
      keysRead_foreign hl hp hy (runs_weightToFee.mp h'), ?_⟩
    exact (a.chain.family.idEntry_key_injective).eq_iff

end

namespace Sample

def within : Location := ⟨0, .one (.palletInstance 5)⟩

def outside : Location := ⟨1, ⟨[.parachain 1000, .palletInstance 5], by decide⟩⟩

def ignorant : (action : Action) → Unit → action.Answer × Unit
  | .send _ (.storage _), s => (Except.ok none, s)
  | .send _ _, s => (Except.error .connectionClosed, s)
  | .connect _, s => (Except.error .connectionClosed, s)

end Sample

/-- A token by its two names, and beside it the currency of a sibling. -/
theorem weightToFee_view_moonbase :
    ∃ a : Adapter, a.chain = .moonbase ∧ Sample.within ≠ Sample.outside ∧
      (a.weightToFee ⟨1, 0⟩ Sample.outside).run.run Sample.ignorant () =
        (((a.weightToFee ⟨1, 0⟩ Sample.within).run.run Sample.ignorant ()).1.mapError
          (.renamed Sample.outside.describe), ()) ∧
      ∃ t t' r r' key key', Runs (a.weightToFee ⟨1, 0⟩ Sample.within).run t r ∧
        Runs (a.weightToFee ⟨1, 0⟩ (.siblingParachain 2114)).run t' r' ∧
        (keysRead t).head? = some key ∧ (keysRead t').head? = some key' ∧ key ≠ key' := by
  let a : Adapter := ⟨.moonbase, some ⟨0, fun _ => .ok []⟩⟩
  have hl : a.link = some ⟨0, fun _ => .ok []⟩ := rfl
  have hp : a.chain.paraId = some 1000 := rfl
  have same := (weightToFee_view hl hp Sample.within Sample.outside).1 (by decide)
  have run := runs_exchanges Sample.ignorant (a.weightToFee ⟨1, 0⟩ Sample.within).run ()
  have run' := runs_exchanges Sample.ignorant
    (a.weightToFee ⟨1, 0⟩ (.siblingParachain 2114)).run ()
  obtain ⟨key, key', hkey, hkey', hiff⟩ := (weightToFee_view hl hp Sample.within
    (.siblingParachain 2114)).2 (by decide) (by decide) run run'
  refine ⟨a, rfl, by decide, (same Unit Sample.ignorant () ⟨1, 0⟩).2, ?_⟩
  refine ⟨_, _, _, _, key, key', run, run', hkey, hkey', ?_⟩
  rw [ne_eq, hiff]
  decide

end Adapter

end XcmTasks

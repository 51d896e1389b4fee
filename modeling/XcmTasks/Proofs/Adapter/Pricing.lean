import XcmTasks.Adapter.Pricing
import XcmTasks.Proofs.Adapter.Asking

/-!
What the pricing of a weight asks of the chain. A native asset takes one question. A foreign one
takes two lookups, of the asset's id and of the entry with its rate, and the second only if the
first found something.
-/

namespace XcmTasks

open Dialogue

namespace Adapter

variable {a : Adapter} {t : Transcript}

abbrev rates (a : Adapter) : RateTable := a.chain.family.rateTable

abbrev IdLookup (a : Adapter) (own : Location) :
    Transcript → Except AdapterError (Option a.rates.Id) → Prop :=
  let := a.rates.scaleId
  Lookup a a.rates.Id (a.rates.idKey own) a.rates.idName

abbrev EntryLookup (a : Adapter) (own : Location) (id : a.rates.Id) :
    Transcript → Except AdapterError (Option a.rates.Entry) → Prop :=
  let := a.rates.scaleEntry
  Lookup a a.rates.Entry (a.rates.entryKey own id) a.rates.entryName

inductive Rating (a : Adapter) (asset own : Location) :
    Transcript → Except AdapterError UInt128 → Prop where
  | idFailed {t : Transcript} {e : AdapterError} (hi : IdLookup a own t (.error e)) :
      Rating a asset own t (.error e)
  | unregistered {t : Transcript} (hi : IdLookup a own t (.ok none)) :
      Rating a asset own t (.error (.unresolvedAsset a.key asset.describe .notRegistered))
  | entryFailed {t₁ t₂ : Transcript} {id : a.rates.Id} {e : AdapterError}
      (hi : IdLookup a own t₁ (.ok (some id))) (he : EntryLookup a own id t₂ (.error e)) :
      Rating a asset own (t₁ ++ t₂) (.error e)
  | unrated {t₁ t₂ : Transcript} {id : a.rates.Id} {entry : Option a.rates.Entry}
      (hi : IdLookup a own t₁ (.ok (some id))) (he : EntryLookup a own id t₂ (.ok entry))
      (hr : entry >>= a.rates.rate? = none) :
      Rating a asset own (t₁ ++ t₂)
        (.error (.unresolvedAsset a.key asset.describe .noRate))
  | rated {t₁ t₂ : Transcript} {id : a.rates.Id} {entry : Option a.rates.Entry} {rate : UInt128}
      (hi : IdLookup a own t₁ (.ok (some id))) (he : EntryLookup a own id t₂ (.ok entry))
      (hr : entry >>= a.rates.rate? = some rate) : Rating a asset own (t₁ ++ t₂) (.ok rate)

theorem runs_foreignRate {asset own : Location} {r : Except AdapterError UInt128} :
    Runs (a.foreignRate asset own).run t r ↔ Rating a asset own t r := by
  unfold foreignRate
  simp only [runs_except_bind, runs_readStorage]
  refine ⟨?_, ?_⟩
  · rintro (⟨e, hi, rfl⟩ | ⟨t₁, t₂, _ | id, hi, h, rfl⟩)
    · exact .idFailed hi
    · obtain ⟨rfl, rfl⟩ := runs_throw.mp h
      rw [List.append_nil]
      exact .unregistered hi
    · simp only [runs_except_bind, runs_readStorage] at h
      rcases h with ⟨e, he, rfl⟩ | ⟨t₂, t₃, entry, he, h, rfl⟩
      · exact .entryFailed hi he
      · cases hr : entry >>= a.rates.rate? with
        | none =>
          simp only [hr, runs_throw] at h
          obtain ⟨rfl, rfl⟩ := h
          rw [List.append_nil]
          exact .unrated hi he hr
        | some rate =>
          simp only [hr, runs_except_pure] at h
          obtain ⟨rfl, rfl⟩ := h
          rw [List.append_nil]
          exact .rated hi he hr
  · intro h
    cases h with
    | idFailed hi => exact .inl ⟨_, hi, rfl⟩
    | unregistered hi => exact .inr ⟨t, [], none, hi, runs_throw.mpr ⟨rfl, rfl⟩, by simp⟩
    | entryFailed hi he =>
      refine .inr ⟨_, _, some _, hi, ?_, rfl⟩
      simp only [runs_except_bind, runs_readStorage]
      exact .inl ⟨_, he, rfl⟩
    | unrated hi he hr =>
      refine .inr ⟨_, _, some _, hi, ?_, rfl⟩
      simp only [runs_except_bind, runs_readStorage]
      exact .inr ⟨_, [], _, he, by simp [hr], by simp⟩
    | rated hi he hr =>
      refine .inr ⟨_, _, some _, hi, ?_, rfl⟩
      simp only [runs_except_bind, runs_readStorage]
      exact .inr ⟨_, [], _, he, by simp [hr], by simp⟩

inductive Pricing (a : Adapter) (weight : Weight) (asset : Location) :
    Transcript → Except AdapterError UInt128 → Prop where
  | nativeUnlinked (hn : a.chain.isNativeLocation asset = true) (hl : a.link = none) :
      Pricing a weight asset [] (.error (.notInitialized a.key))
  | nativeUnanswered {link : Link} {e : NodeError}
      (hn : a.chain.isNativeLocation asset = true) (hl : a.link = some link) :
      Pricing a weight asset [⟨.send link (.weightToFee weight), .error e⟩] (.error (.ofNode e))
  | nativePriced {link : Link} {fee : UInt128}
      (hn : a.chain.isNativeLocation asset = true) (hl : a.link = some link) :
      Pricing a weight asset [⟨.send link (.weightToFee weight), .ok fee⟩] (.ok fee)
  | homeless (hn : a.chain.isNativeLocation asset = false) (hp : a.chain.paraId = none) :
      Pricing a weight asset [] (.error (.configuration ("chain " ++ a.key ++ " has no para id")))
  | unrated {t : Transcript} {paraId : UInt32} {e : AdapterError}
      (hn : a.chain.isNativeLocation asset = false) (hp : a.chain.paraId = some paraId)
      (hr : Rating a asset (asset.relativeTo paraId) t (.error e)) :
      Pricing a weight asset t (.error e)
  | overflowing {t : Transcript} {paraId : UInt32} {rate : UInt128}
      (hn : a.chain.isNativeLocation asset = false) (hp : a.chain.paraId = some paraId)
      (hr : Rating a asset (asset.relativeTo paraId) t (.ok rate))
      (hf : feeAtRate? weight rate = none) :
      Pricing a weight asset t (.error (.feeOverflow a.key))
  | priced {t : Transcript} {paraId : UInt32} {rate fee : UInt128}
      (hn : a.chain.isNativeLocation asset = false) (hp : a.chain.paraId = some paraId)
      (hr : Rating a asset (asset.relativeTo paraId) t (.ok rate))
      (hf : feeAtRate? weight rate = some fee) :
      Pricing a weight asset t (.ok fee)

theorem runs_nativeFee {weight : Weight} {r : Except AdapterError UInt128} :
    Runs (a.nativeFee weight).run t r ↔
      (a.link = none ∧ t = [] ∧ r = .error (.notInitialized a.key)) ∨
        ∃ link, a.link = some link ∧ ∃ reply : Except NodeError UInt128,
          t = [⟨.send link (.weightToFee weight), reply⟩] ∧ r = reply.mapError .ofNode := by
  cases hl : a.link with
  | none =>
    have unasked : a.nativeFee weight = throw (.notInitialized a.key) := by
      unfold nativeFee
      rw [requireLink_of_none hl]
      rfl
    rw [unasked, runs_throw]
    simp
  | some link =>
    have asked : a.nativeFee weight = link.send (.weightToFee weight) := by
      unfold nativeFee
      rw [requireLink_of_some hl, pure_bind]
    rw [asked]
    refine Iff.trans runs_send ?_
    simp only [reduceCtorEq, false_and, Option.some.injEq, exists_eq_left', false_or]
    exact Iff.rfl

theorem requireParaId_of_some {paraId : UInt32} (hp : a.chain.paraId = some paraId) :
    a.requireParaId = .ok paraId := by
  unfold requireParaId
  rw [hp]

theorem requireParaId_of_none (hp : a.chain.paraId = none) :
    a.requireParaId = .error (.configuration ("chain " ++ a.key ++ " has no para id")) := by
  unfold requireParaId
  rw [hp]

theorem paraId_of_requireParaId {paraId : UInt32} (h : a.requireParaId = .ok paraId) :
    a.chain.paraId = some paraId := by
  cases hp : a.chain.paraId with
  | none => rw [requireParaId_of_none hp] at h; cases h
  | some p => rw [requireParaId_of_some hp] at h; cases h; rfl

theorem runs_weightToFee {weight : Weight} {asset : Location} {r : Except AdapterError UInt128} :
    Runs (a.weightToFee weight asset).run t r ↔ Pricing a weight asset t r := by
  unfold weightToFee
  cases hn : a.chain.isNativeLocation asset with
  | true =>
    rw [if_pos rfl, runs_nativeFee]
    refine ⟨?_, ?_⟩
    · rintro (⟨hl, rfl, rfl⟩ | ⟨link, hl, e | fee, rfl, rfl⟩)
      · exact .nativeUnlinked hn hl
      · exact .nativeUnanswered hn hl
      · exact .nativePriced hn hl
    · intro h
      cases h with
      | nativeUnlinked _ hl => exact .inl ⟨hl, rfl, rfl⟩
      | nativeUnanswered _ hl => exact .inr ⟨_, hl, .error _, rfl, rfl⟩
      | nativePriced _ hl => exact .inr ⟨_, hl, .ok _, rfl, rfl⟩
      | homeless hf => cases hn.symm.trans hf
      | unrated hf => cases hn.symm.trans hf
      | overflowing hf => cases hn.symm.trans hf
      | priced hf => cases hn.symm.trans hf
  | false =>
    rw [if_neg (by decide), runs_except_bind]
    simp only [runs_liftExcept, runs_except_bind, runs_foreignRate]
    refine ⟨?_, ?_⟩
    · rintro (⟨e, ⟨rfl, h⟩, rfl⟩ | ⟨t₁, t₂, paraId, ⟨rfl, h⟩, h', rfl⟩)
      · cases hp : a.chain.paraId with
        | none =>
          rw [requireParaId_of_none hp] at h
          cases h
          exact .homeless hn hp
        | some paraId =>
          rw [requireParaId_of_some hp] at h
          cases h
      · have hp := paraId_of_requireParaId h.symm
        rcases h' with ⟨e, hr, rfl⟩ | ⟨t₁, t₂, rate, hr, h', rfl⟩
        · exact .unrated hn hp hr
        · cases hf : feeAtRate? weight rate with
          | none =>
            simp only [hf, runs_throw] at h'
            obtain ⟨rfl, rfl⟩ := h'
            rw [List.append_nil]
            exact .overflowing hn hp hr hf
          | some fee =>
            simp only [hf, runs_except_pure] at h'
            obtain ⟨rfl, rfl⟩ := h'
            rw [List.append_nil]
            exact .priced hn hp hr hf
    · intro h
      cases h with
      | nativeUnlinked hf => cases hn.symm.trans hf
      | nativeUnanswered hf => cases hn.symm.trans hf
      | nativePriced hf => cases hn.symm.trans hf
      | homeless _ hp => exact .inl ⟨_, ⟨rfl, (requireParaId_of_none hp).symm⟩, rfl⟩
      | unrated _ hp hr =>
        exact .inr ⟨[], t, _, ⟨rfl, (requireParaId_of_some hp).symm⟩, .inl ⟨_, hr, rfl⟩, rfl⟩
      | overflowing _ hp hr hf =>
        refine .inr ⟨[], t, _, ⟨rfl, (requireParaId_of_some hp).symm⟩, .inr ?_, rfl⟩
        exact ⟨t, [], _, hr, by simp [hf], by simp⟩
      | priced _ hp hr hf =>
        refine .inr ⟨[], t, _, ⟨rfl, (requireParaId_of_some hp).symm⟩, .inr ?_, rfl⟩
        exact ⟨t, [], _, hr, by simp [hf], by simp⟩

theorem Rating.unrefused {asset own : Location} {e : AdapterError}
    (h : Rating a asset own t (.error e)) : e.Unrefused := by
  let := a.rates.scaleId
  let := a.rates.scaleEntry
  cases h with
  | idFailed hi => exact Lookup.unrefused hi
  | unregistered => trivial
  | entryFailed _ he => exact Lookup.unrefused he
  | unrated => trivial

theorem Pricing.unrefused {weight : Weight} {asset : Location} {e : AdapterError}
    (h : Pricing a weight asset t (.error e)) : e.Unrefused := by
  cases h with
  | nativeUnlinked => trivial
  | nativeUnanswered => exact .ofNode _
  | homeless => trivial
  | unrated _ _ hr => exact hr.unrefused
  | overflowing => trivial

end Adapter

end XcmTasks

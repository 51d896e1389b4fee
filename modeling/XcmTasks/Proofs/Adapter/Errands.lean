import Mathlib.Data.List.Forall2
import XcmTasks.Proofs.Adapter.Pricing
import XcmTasks.Proofs.Location

/-!
The errands that operations run on chains, and in which order. An operation runs the first of its
errands, and all of them if it succeeds. Submissions and receipts are told apart in a transcript by
the requests that they belong to.
-/

namespace XcmTasks

namespace Adapter

/-! ### Errands -/

inductive Errand where
  | weigh (call : Call) (sender : AccountId)
  | price (weight : Weight)
  | read (key : StorageKey)
  | submit (call : Call) (signer : Signer)

inductive Errand.Sent (a : Adapter) : Errand → Action → Prop where
  | weigh {link : Link} {call : Call} {sender : AccountId} {bytes : Bytes}
      (hl : a.link = some link) (hc : link.encodeCall call = .ok bytes) :
      Sent a (.weigh call sender) (.send link (.paymentInfo bytes sender))
  | price {link : Link} {weight : Weight} (hl : a.link = some link) :
      Sent a (.price weight) (.send link (.weightToFee weight))
  | read {link : Link} {key : StorageKey} (hl : a.link = some link) :
      Sent a (.read key) (.send link (.storage key))
  | submit {link : Link} {call : Call} {signer : Signer} {bytes : Bytes}
      (hl : a.link = some link) (hc : link.encodeCall call = .ok bytes) :
      Sent a (.submit call signer) (.send link (.submit bytes signer))

abbrev Errands := List (Adapter × Errand)

/-- All errands have been run, in order, and nothing else. -/
def Asked (errands : Errands) (t : Transcript) : Prop :=
  List.Forall₂ (fun errand exchange => errand.2.Sent errand.1 exchange.1) errands t

/-- The first of the errands have been run, in order, and nothing else. -/
def AskedFirst (errands : Errands) (t : Transcript) : Prop :=
  ∃ first, first <+: errands ∧ Asked first t

section
variable {errands others : Errands} {t t' : Transcript}

theorem Asked.append (h : Asked errands t) (h' : Asked others t') :
    Asked (errands ++ others) (t ++ t') := List.rel_append h h'

theorem Asked.first (h : Asked errands t) : AskedFirst errands t :=
  ⟨errands, List.prefix_rfl, h⟩

theorem AskedFirst.nil : AskedFirst errands [] := ⟨[], List.nil_prefix, .nil⟩

theorem AskedFirst.more (h : AskedFirst errands t) : AskedFirst (errands ++ others) t := by
  obtain ⟨first, hf, ha⟩ := h
  exact ⟨first, hf.trans (List.prefix_append _ _), ha⟩

theorem Asked.append_first (h : Asked errands t) (h' : AskedFirst others t') :
    AskedFirst (errands ++ others) (t ++ t') := by
  obtain ⟨first, hf, ha⟩ := h'
  exact ⟨errands ++ first, (List.prefix_append_right_inj errands).mpr hf, h.append ha⟩

theorem AskedFirst.forall_mem {P : Exchange Action Action.Answer → Prop}
    (h : AskedFirst errands t) (hP : ∀ e ∈ errands, ∀ x, e.2.Sent e.1 x.1 → P x) :
    ∀ x ∈ t, P x := by
  obtain ⟨first, hf, ha⟩ := h
  have hP' : ∀ e ∈ first, ∀ x, e.2.Sent e.1 x.1 → P x := fun e he => hP e (hf.subset he)
  clear hf
  induction ha with
  | nil => exact List.forall_mem_nil _
  | cons hs _ ih =>
    obtain ⟨head, tail⟩ := List.forall_mem_cons.mp hP'
    exact List.forall_mem_cons.mpr ⟨head _ hs, ih tail⟩

theorem AskedFirst.length_le (h : AskedFirst errands t) : t.length ≤ errands.length := by
  obtain ⟨first, hf, ha⟩ := h
  rw [← ha.length_eq]
  exact hf.length_le

end

/-! ### Operations -/

/-- What the pricing in an asset takes: one question for a native one, else up to two lookups. -/
inductive FeeErrands (a : Adapter) (asset : Location) : List Errand → Prop where
  | native (weight : Weight) (hn : a.chain.isNativeLocation asset = true) :
      FeeErrands a asset [.price weight]
  | foreign (hn : a.chain.isNativeLocation asset = false) :
      FeeErrands a asset [.read (a.rates.idKey (a.chain.ownView asset))]
  | rated {id : a.rates.Id} (hn : a.chain.isNativeLocation asset = false) :
      FeeErrands a asset [.read (a.rates.idKey (a.chain.ownView asset)),
        .read (a.rates.entryKey (a.chain.ownView asset) id)]

section
variable {a : Adapter} {call : Call} {sender : AccountId} {asset : Location} {t : Transcript}

theorem asked_one {errand : Errand} {exchange : Exchange Action Action.Answer}
    (h : errand.Sent a exchange.1) : Asked [(a, errand)] [exchange] := .cons h .nil

theorem Weighing.asked {instructions : UInt64} {r : Except AdapterError XcmWeight}
    (h : Weighing a call sender instructions t r) :
    t = [] ∨ Asked [(a, .weigh call sender)] t := by
  cases h with
  | unlinked => exact .inl rfl
  | unencodable => exact .inl rfl
  | unanswered hl hc => exact .inr (asked_one (.weigh hl hc))
  | overflowing hl hc => exact .inr (asked_one (.weigh hl hc))
  | weighed hl hc => exact .inr (asked_one (.weigh hl hc))

theorem Weighing.asked_of_ok {instructions : UInt64} {weight : XcmWeight}
    (h : Weighing a call sender instructions t (.ok weight)) :
    Asked [(a, .weigh call sender)] t := by
  cases h with
  | weighed hl hc => exact asked_one (.weigh hl hc)

theorem Lookup.asked {α : Type} [Scale α] {key : StorageKey} {what : String}
    {r : Except AdapterError (Option α)} (h : Lookup a α key what t r) :
    t = [] ∨ Asked [(a, .read key)] t := by
  cases h with
  | unlinked => exact .inl rfl
  | unanswered hl => exact .inr (asked_one (.read hl))
  | absent hl => exact .inr (asked_one (.read hl))
  | undecodable hl => exact .inr (asked_one (.read hl))
  | present hl => exact .inr (asked_one (.read hl))

theorem Lookup.asked_of_ok {α : Type} [Scale α] {key : StorageKey} {what : String}
    {value : Option α} (h : Lookup a α key what t (.ok value)) :
    Asked [(a, .read key)] t := by
  cases h with
  | absent hl => exact asked_one (.read hl)
  | present hl => exact asked_one (.read hl)

theorem Rating.asked {own : Location} {r : Except AdapterError UInt128}
    (h : Rating a asset own t r) :
    AskedFirst [(a, .read (a.rates.idKey own))] t ∨
      ∃ id, Asked [(a, .read (a.rates.idKey own)), (a, .read (a.rates.entryKey own id))] t := by
  let := a.rates.scaleId
  let := a.rates.scaleEntry
  cases h with
  | idFailed hi =>
    rcases Lookup.asked hi with rfl | h
    · exact .inl .nil
    · exact .inl h.first
  | unregistered hi => exact .inl (Lookup.asked_of_ok hi).first
  | entryFailed hi he =>
    rcases Lookup.asked he with rfl | h
    · rw [List.append_nil]
      exact .inl (Lookup.asked_of_ok hi).first
    · exact .inr ⟨_, (Lookup.asked_of_ok hi).append h⟩
  | unrated hi he => exact .inr ⟨_, (Lookup.asked_of_ok hi).append (Lookup.asked_of_ok he)⟩
  | rated hi he => exact .inr ⟨_, (Lookup.asked_of_ok hi).append (Lookup.asked_of_ok he)⟩

theorem Rating.asked_of_ok {own : Location} {rate : UInt128} (h : Rating a asset own t (.ok rate)) :
    ∃ id, Asked [(a, .read (a.rates.idKey own)), (a, .read (a.rates.entryKey own id))] t := by
  let := a.rates.scaleId
  let := a.rates.scaleEntry
  cases h with
  | rated hi he => exact ⟨_, (Lookup.asked_of_ok hi).append (Lookup.asked_of_ok he)⟩

theorem exists_feeErrands (a : Adapter) (asset : Location) :
    ∃ fees, FeeErrands a asset fees := by
  cases hn : a.chain.isNativeLocation asset with
  | true => exact ⟨_, .native default hn⟩
  | false => exact ⟨_, .foreign hn⟩

theorem Rating.feeErrands {paraId : UInt32} {r : Except AdapterError UInt128}
    (hn : a.chain.isNativeLocation asset = false) (hp : a.chain.paraId = some paraId)
    (h : Rating a asset (asset.relativeTo paraId) t r) :
    ∃ fees, FeeErrands a asset fees ∧ AskedFirst (fees.map (a, ·)) t := by
  have ha := h.asked
  rw [← Chain.ownView_of_paraId hp] at ha
  rcases ha with ha | ⟨id, ha⟩
  · exact ⟨_, .foreign hn, ha⟩
  · exact ⟨_, .rated hn, ha.first⟩

theorem Pricing.asked {weight : Weight} {r : Except AdapterError UInt128}
    (h : Pricing a weight asset t r) :
    ∃ fees, FeeErrands a asset fees ∧ AskedFirst (fees.map (a, ·)) t := by
  cases h with
  | nativeUnlinked hn => exact ⟨_, .native weight hn, .nil⟩
  | nativeUnanswered hn hl => exact ⟨_, .native _ hn, (asked_one (.price hl)).first⟩
  | nativePriced hn hl => exact ⟨_, .native _ hn, (asked_one (.price hl)).first⟩
  | homeless hn => exact ⟨_, .foreign hn, .nil⟩
  | unrated hn hp hr => exact hr.feeErrands hn hp
  | overflowing hn hp hr => exact hr.feeErrands hn hp
  | priced hn hp hr => exact hr.feeErrands hn hp

theorem Pricing.asked_of_ok {weight : Weight} {fee : UInt128}
    (h : Pricing a weight asset t (.ok fee)) :
    ∃ fees, FeeErrands a asset fees ∧ Asked (fees.map (a, ·)) t := by
  cases h with
  | nativePriced hn hl => exact ⟨_, .native _ hn, asked_one (.price hl)⟩
  | priced hn hp hr =>
    obtain ⟨id, ha⟩ := hr.asked_of_ok
    rw [← Chain.ownView_of_paraId hp] at ha
    exact ⟨_, .rated hn, ha⟩

theorem Submitting.asked {signer : Signer} {r : Except AdapterError Receipt}
    (h : Submitting a call signer t r) : t = [] ∨ Asked [(a, .submit call signer)] t := by
  cases h with
  | unlinked => exact .inl rfl
  | unencodable => exact .inl rfl
  | unanswered hl hc => exact .inr (asked_one (.submit hl hc))
  | refused hl hc => exact .inr (asked_one (.submit hl hc))
  | accepted hl hc => exact .inr (asked_one (.submit hl hc))

end

/-! ### Submissions -/

def submission? : Exchange Action Action.Answer → Option (Link × Bytes × Signer)
  | ⟨.send link (.submit bytes signer), _⟩ => some (link, bytes, signer)
  | _ => none

def receipt? : Exchange Action Action.Answer → Option Receipt
  | ⟨.send _ (.submit _ _), .ok receipt⟩ => some receipt
  | _ => none

def submissions (t : Transcript) : List (Link × Bytes × Signer) := t.filterMap submission?

def receipts (t : Transcript) : List Receipt := t.filterMap receipt?

def Errand.isQuiet : Errand → Bool
  | .submit _ _ => false
  | _ => true

section
variable {errands : Errands} {t : Transcript}

theorem Errand.Sent.quiet {a : Adapter} {errand : Errand} {exchange : Exchange Action Action.Answer}
    (h : errand.Sent a exchange.1) (hq : errand.isQuiet = true) :
    submission? exchange = none ∧ receipt? exchange = none := by
  obtain ⟨action, reply⟩ := exchange
  cases h with
  | weigh => exact ⟨rfl, rfl⟩
  | price => exact ⟨rfl, rfl⟩
  | read => exact ⟨rfl, rfl⟩
  | submit => cases hq

theorem AskedFirst.quiet (h : AskedFirst errands t) (hq : ∀ e ∈ errands, e.2.isQuiet = true) :
    submissions t = [] ∧ receipts t = [] := by
  have silent : ∀ x ∈ t, submission? x = none ∧ receipt? x = none :=
    h.forall_mem fun e he x hs => hs.quiet (hq e he)
  refine ⟨List.filterMap_eq_nil_iff.mpr ?_, List.filterMap_eq_nil_iff.mpr ?_⟩
  · intro x hx
    exact (silent x hx).1
  · intro x hx
    exact (silent x hx).2

theorem FeeErrands.quiet {a : Adapter} {asset : Location} {fees : List Errand}
    (h : FeeErrands a asset fees) : ∀ e ∈ fees, e.isQuiet = true := by
  cases h <;> simp [Errand.isQuiet]

theorem Submitting.unrefused {a : Adapter} {call : Call} {signer : Signer} {e : AdapterError}
    (h : Submitting a call signer t (.error e)) (hr : receipts t = []) : e.Unrefused := by
  cases h with
  | unlinked => trivial
  | unencodable => exact .ofNode _
  | unanswered => exact .ofNode _
  | refused => cases hr

theorem submissions_append (t t' : Transcript) :
    submissions (t ++ t') = submissions t ++ submissions t' := List.filterMap_append

theorem receipts_append (t t' : Transcript) :
    receipts (t ++ t') = receipts t ++ receipts t' := List.filterMap_append

end

end Adapter

end XcmTasks

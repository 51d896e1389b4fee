import XcmTasks.Proofs.Adapter.Transfers

/-!
Extrinsics that failed on the chain. A receipt tells so by its first event of that kind, whatever
the data of the event look like, and then submitting is an error. Every other receipt is handed on
as it came.
-/

namespace XcmTasks

open Dialogue hiding bind_assoc

/-- The event tells that the extrinsic failed. -/
def ChainEvent.TellsFailure (event : ChainEvent) : Prop :=
  Text.asciiLowercase event.pallet = "system" ∧ event.method = "ExtrinsicFailed"

theorem ChainEvent.isOf_failure (event : ChainEvent) :
    event.isOf "system" "ExtrinsicFailed" = true ↔ event.TellsFailure := by
  have small : Text.asciiLowercase "system" = "system" := by decide
  simp [isOf, TellsFailure, Text.eqIgnoringCase, small]

namespace Receipt

variable {data error holder : Json} {pallet name : String} {receipt : Receipt}

/-! ### The error of an event -/

/-- The error in the data of an event, by the first of its two spellings that is there. -/
def TellsError (data error : Json) : Prop :=
  data.get? "dispatchError" = some error ∨
    data.get? "dispatchError" = none ∧
      (data.get? "dispatch_error" = some error ∨
        data.get? "dispatch_error" = none ∧ error = .null)

def Holds (error holder : Json) : Prop :=
  error.get? "module" = some holder ∨ error.get? "module" = none ∧ holder = error

def Texts (holder : Json) (pallet name : String) : Prop :=
  holder.get? "section" = some (.text pallet) ∧ holder.get? "name" = some (.text name)

/-- The section and name of an error: its texts, or its JSON text where one of them is missing. -/
inductive Named (error : Json) : String → String → Prop where
  | texts {holder : Json} {pallet name : String} (hh : Holds error holder)
      (ht : Texts holder pallet name) : Named error pallet name
  | whole {holder : Json} (hh : Holds error holder)
      (ht : ∀ pallet name, ¬Texts holder pallet name) : Named error "system" error.render

theorem tellsError_iff :
    TellsError data error ↔
      (member? data "dispatchError" "dispatch_error").getD .null = error := by
  unfold TellsError member?
  cases data.get? "dispatchError" <;> cases data.get? "dispatch_error" <;> simp [eq_comm]

theorem holds_iff : Holds error holder ↔ (error.get? "module").getD error = holder := by
  unfold Holds
  cases error.get? "module" <;> simp [eq_comm]

theorem text?_eq_some {value : Option Json} {s : String} :
    value.bind Json.text? = some s ↔ value = some (.text s) := by
  rw [Option.bind_eq_some_iff]
  refine ⟨?_, fun h => ⟨_, h, rfl⟩⟩
  rintro ⟨v, rfl, text⟩
  cases v with
  | text s' =>
    cases text
    rfl
  | _ => cases text

theorem errorName_of_holds (hh : Holds error holder) :
    errorName error =
      match (holder.get? "section").bind Json.text?, (holder.get? "name").bind Json.text? with
      | some pallet, some name => (pallet, name)
      | _, _ => ("system", error.render) := by
  rw [← holds_iff.mp hh]
  rfl

theorem errorName_of_texts (hh : Holds error holder) (ht : Texts holder pallet name) :
    errorName error = (pallet, name) := by
  rw [errorName_of_holds hh, text?_eq_some.mpr ht.1, text?_eq_some.mpr ht.2]

theorem errorName_of_textless (hh : Holds error holder)
    (ht : ∀ pallet name, ¬Texts holder pallet name) :
    errorName error = ("system", error.render) := by
  rw [errorName_of_holds hh]
  split
  · rename_i pallet name hp hn
    exact absurd ⟨text?_eq_some.mp hp, text?_eq_some.mp hn⟩ (ht pallet name)
  · rfl

theorem named_iff : Named error pallet name ↔ errorName error = (pallet, name) := by
  refine ⟨?_, ?_⟩
  · intro h
    cases h with
    | texts hh ht => exact errorName_of_texts hh ht
    | whole hh ht => exact errorName_of_textless hh ht
  · intro h
    have hh : Holds error ((error.get? "module").getD error) := holds_iff.mpr rfl
    by_cases ht : ∃ pallet name, Texts ((error.get? "module").getD error) pallet name
    · obtain ⟨p, n, ht⟩ := ht
      cases (errorName_of_texts hh ht).symm.trans h
      exact .texts hh ht
    · have textless : ∀ p n, ¬Texts ((error.get? "module").getD error) p n :=
        fun p n both => ht ⟨p, n, both⟩
      cases (errorName_of_textless hh textless).symm.trans h
      exact .whole hh textless

/-! ### The failure that a receipt tells -/

def FirstFailure (events : List ChainEvent) (event : ChainEvent) : Prop :=
  event.TellsFailure ∧
    ∃ before after, events = before ++ event :: after ∧ ∀ e ∈ before, ¬e.TellsFailure

def Fails (receipt : Receipt) (pallet name : String) : Prop :=
  ∃ event error, FirstFailure receipt.events event ∧ TellsError event.data error ∧
    Named error pallet name

def Unharmed (receipt : Receipt) : Prop := ∀ event ∈ receipt.events, ¬event.TellsFailure

theorem findEvent?_eq_some {event : ChainEvent} :
    receipt.findEvent? "system" "ExtrinsicFailed" = some event ↔
      FirstFailure receipt.events event := by
  unfold findEvent? FirstFailure
  rw [List.find?_eq_some_iff_append, ChainEvent.isOf_failure]
  simp only [Bool.not_eq_true', ← Bool.not_eq_true, ChainEvent.isOf_failure]

theorem findEvent?_eq_none :
    receipt.findEvent? "system" "ExtrinsicFailed" = none ↔ receipt.Unharmed := by
  unfold findEvent? Unharmed
  simp only [List.find?_eq_none, ChainEvent.isOf_failure]

theorem dispatchError?_eq_some :
    receipt.dispatchError? = some (pallet, name) ↔ receipt.Fails pallet name := by
  unfold dispatchError? Fails
  simp only [← findEvent?_eq_some, tellsError_iff, named_iff]
  cases receipt.findEvent? "system" "ExtrinsicFailed" <;> simp

theorem dispatchError?_eq_none : receipt.dispatchError? = none ↔ receipt.Unharmed := by
  rw [← findEvent?_eq_none]
  unfold dispatchError?
  cases receipt.findEvent? "system" "ExtrinsicFailed" <;> simp

/-- Whatever the shape of its data, a failure has a section and a name. -/
theorem exists_fails : (∃ pallet name, receipt.Fails pallet name) ↔ ¬receipt.Unharmed := by
  simp only [← dispatchError?_eq_some, ← dispatchError?_eq_none]
  cases receipt.dispatchError? with
  | none => simp
  | some error => simpa using ⟨error.1, error.2, rfl⟩

end Receipt

namespace Adapter

section
variable {a : Adapter} {call : Call} {signer : Signer} {t : Transcript}
variable {r : Except AdapterError Receipt}

inductive Fares (chain : String) (receipt : Receipt) : Except AdapterError Receipt → Prop where
  | refused {pallet name : String} (h : receipt.Fails pallet name) :
      Fares chain receipt (.error (.rejected chain pallet name))
  | handedOn (h : receipt.Unharmed) : Fares chain receipt (.ok receipt)

theorem runs_submit_of_receipt {link : Link} {bytes : Bytes} {receipt : Receipt}
    (hl : a.link = some link) (hc : link.encodeCall call = .ok bytes) :
    Runs (a.submit call signer).run [⟨.send link (.submit bytes signer), .ok receipt⟩] r ↔
      Fares a.key receipt r := by
  rw [runs_submit]
  refine ⟨?_, ?_⟩
  · intro h
    cases h with
    | refused _ _ hd => exact .refused (Receipt.dispatchError?_eq_some.mp hd)
    | accepted _ _ hd => exact .handedOn (Receipt.dispatchError?_eq_none.mp hd)
  · intro h
    cases h with
    | refused hf => exact .refused hl hc (Receipt.dispatchError?_eq_some.mpr hf)
    | handedOn hu => exact .accepted hl hc (Receipt.dispatchError?_eq_none.mpr hu)

theorem submit_ok {receipt : Receipt} (h : Runs (a.submit call signer).run t (.ok receipt)) :
    receipts t = [receipt] ∧ receipt.Unharmed := by
  cases runs_submit.mp h with
  | accepted _ _ hd => exact ⟨rfl, Receipt.dispatchError?_eq_none.mp hd⟩

theorem submit_rejected {chain pallet name : String}
    (h : Runs (a.submit call signer).run t r) (hr : r = .error (.rejected chain pallet name)) :
    chain = a.key ∧ ∃ receipt, receipts t = [receipt] ∧ receipt.Fails pallet name := by
  have unrefused {e : AdapterError} (hu : e.Unrefused) : r ≠ .error e := by
    rintro rfl
    cases hr
    exact hu
  cases runs_submit.mp h with
  | unlinked => cases hr
  | unencodable => exact absurd rfl (unrefused (.ofNode _))
  | unanswered => exact absurd rfl (unrefused (.ofNode _))
  | refused _ _ hd =>
    cases hr
    exact ⟨rfl, _, rfl, Receipt.dispatchError?_eq_some.mp hd⟩
  | accepted => cases hr

end

/-- A call whose receipt tells a failure is refused with the section and name of its first failure,
and any other receipt is handed on. Nothing else leads to a refusal, and no other receipt than the
one from the node is ever handed on. -/
theorem failure_is_refused (a : Adapter) (call : Call) (signer : Signer) :
    (∀ link bytes, a.link = some link → link.encodeCall call = .ok bytes → ∀ receipt : Receipt,
      (∀ r, Runs (a.submit call signer).run [⟨.send link (.submit bytes signer), .ok receipt⟩] r ↔
        Fares a.key receipt r) ∧
      ((∃ pallet name, receipt.Fails pallet name) ↔
        ∃ event ∈ receipt.events, event.TellsFailure)) ∧
    ∀ t : Transcript,
      (∀ chain pallet name,
        Runs (a.submit call signer).run t (.error (.rejected chain pallet name)) →
          chain = a.key ∧ ∃ receipt, receipts t = [receipt] ∧ receipt.Fails pallet name) ∧
      ∀ receipt, Runs (a.submit call signer).run t (.ok receipt) →
        receipts t = [receipt] ∧ ∀ event ∈ receipt.events, ¬event.TellsFailure := by
  refine ⟨?_, fun t => ⟨fun chain pallet name h => submit_rejected h rfl,
    fun receipt h => submit_ok h⟩⟩
  intro link bytes hl hc receipt
  refine ⟨fun r => runs_submit_of_receipt hl hc, ?_⟩
  rw [Receipt.exists_fails]
  simp [Receipt.Unharmed]

namespace Sample

def nameless : Json := .object [("module", .object [("section", .text "xcm")])]

/-- An extrinsic that paid its fee and then failed, as a chain with capital letters tells it. A
second failure is told in full. -/
def failed : Receipt where
  extrinsicHash := "0x"
  status := .finalized "0x"
  events := [⟨"balances", "Withdraw", .null⟩,
    ⟨"SYSTEM", "ExtrinsicFailed", .object [("dispatch_error", nameless)]⟩,
    ⟨"system", "ExtrinsicFailed", .object [("dispatchError",
      .object [("section", .text "xcm"), ("name", .text "Barrier")])]⟩]

theorem failed_fails : failed.Fails "system" nameless.render := by
  refine ⟨⟨"SYSTEM", "ExtrinsicFailed", .object [("dispatch_error", nameless)]⟩, nameless,
    ⟨⟨by decide, rfl⟩, [⟨"balances", "Withdraw", .null⟩], _, rfl, ?_⟩, .inr ⟨rfl, .inl rfl⟩,
    .whole (.inl rfl) ?_⟩
  · intro e member
    obtain rfl := List.mem_singleton.mp member
    exact fun told => absurd told.2 (by decide)
  · rintro pallet name ⟨-, missing⟩
    cases missing

end Sample

/-- An error without a name is told as a whole, and a receipt without events is handed on. -/
theorem failure_is_refused_turing :
    Runs (Sample.linked.submit (.new "System" "remark") Sample.sender).run
        [⟨.send Sample.line (.submit [] Sample.sender), .ok Sample.failed⟩]
        (.error (.rejected "turing-local" "system" Sample.nameless.render)) ∧
      Runs (Sample.linked.submit (.new "System" "remark") Sample.sender).run
        [⟨.send Sample.line (.submit [] Sample.sender), .ok (Receipt.submitted "0x")⟩]
        (.ok (Receipt.submitted "0x")) := by
  have fares := (failure_is_refused Sample.linked (.new "System" "remark") Sample.sender).1
    Sample.line [] rfl rfl
  refine ⟨((fares Sample.failed).1 _).mpr (.refused Sample.failed_fails),
    ((fares (.submitted "0x")).1 _).mpr (.handedOn ?_)⟩
  intro event member
  cases member

end Adapter

end XcmTasks

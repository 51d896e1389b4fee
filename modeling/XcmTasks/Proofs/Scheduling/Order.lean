import XcmTasks.Chain.Local
import XcmTasks.Proofs.Adapter.Errands
import XcmTasks.Proofs.Scheduling.Course

/-!
What is asked during the scheduling of a task, and in which order. A run asks the first part of a
plan: the payload is weighed and priced on the destination, in the derivative flow the registration
is on the origin, and at last one call is submitted, after all else has been answered.
-/

namespace XcmTasks

open Dialogue hiding bind_assoc
open Adapter

namespace Scheduling

def quoteErrands (a : Adapter) (call : Call) (sender : AccountId) (fees : List Errand) : Errands :=
  (a, .weigh call sender) :: fees.map (a, ·)

section
variable {a : Adapter} {call : Call} {sender : AccountId} {asset : Location} {flow : Flow}
variable {t : Transcript}

theorem Quoting.asked {r : Except SchedulingError (XcmWeight × UInt128)}
    (h : Quoting a call sender asset flow t r) :
    ∃ fees, FeeErrands a asset fees ∧ AskedFirst (quoteErrands a call sender fees) t := by
  cases h with
  | unweighed hw =>
    obtain ⟨fees, hf⟩ := exists_feeErrands a asset
    refine ⟨fees, hf, ?_⟩
    rcases hw.asked with rfl | ha
    · exact .nil
    · exact ha.first.more
  | unpriced hw hp =>
    obtain ⟨fees, hf, ha⟩ := hp.asked
    exact ⟨fees, hf, hw.asked_of_ok.append_first ha⟩
  | quoted hw hp =>
    obtain ⟨fees, hf, ha⟩ := hp.asked
    exact ⟨fees, hf, hw.asked_of_ok.append_first ha⟩

theorem Quoting.asked_of_ok {figures : XcmWeight × UInt128}
    (h : Quoting a call sender asset flow t (.ok figures)) :
    ∃ fees, FeeErrands a asset fees ∧ Asked (quoteErrands a call sender fees) t := by
  cases h with
  | quoted hw hp =>
    obtain ⟨fees, hf, ha⟩ := hp.asked_of_ok
    exact ⟨fees, hf, hw.asked_of_ok.append ha⟩

theorem quoteErrands_quiet {fees : List Errand} (h : FeeErrands a asset fees) :
    ∀ e ∈ quoteErrands a call sender fees, e.2.isQuiet = true := by
  refine List.forall_mem_cons.mpr ⟨rfl, ?_⟩
  intro e he
  obtain ⟨errand, hm, rfl⟩ := List.mem_map.mp he
  exact h.quiet errand hm

/-- A quote submits nothing. -/
theorem Quoting.quiet {r : Except SchedulingError (XcmWeight × UInt128)}
    (h : Quoting a call sender asset flow t r) : submissions t = [] ∧ receipts t = [] := by
  obtain ⟨fees, hf, ha⟩ := h.asked
  exact ha.quiet (quoteErrands_quiet hf)

end

section
variable {origin destination : Adapter} {request : TaskRequest} {signer : Signer}
variable {t : Transcript}

theorem Prepared.quiet {flow : Flow} {call : Call} {report : Receipt → ScheduledTask}
    (h : Prepared origin destination request signer flow t call report) :
    submissions t = [] ∧ receipts t = [] := by
  cases h with
  | sovereign _ _ hq => exact hq.quiet
  | derivative _ _ _ hq hq' =>
    rw [submissions_append, receipts_append, hq.quiet.1, hq.quiet.2, hq'.quiet.1, hq'.quiet.2]
    exact ⟨rfl, rfl⟩

/-- What a run asks for at most, in order. Its figures are those of the quotes, as soon as more has
been asked than the quotes take. -/
inductive Plan (origin destination : Adapter) (request : TaskRequest) (signer : Signer)
    (t : Transcript) : Flow → Errands → Prop where
  | sovereign {d o : UInt32} (weight : XcmWeight) (fee : UInt128) {fees : List Errand}
      {quote : Errands}
      (hd : destination.chain.paraId = some d) (ho : origin.chain.paraId = some o)
      (hf : FeeErrands destination request.executionFeeLocation fees)
      (he : quote = quoteErrands destination request.payload
        (payloadSender .sovereign o destination signer) fees)
      (hq : quote.length < t.length → ∃ t₁ t₂, t = t₁ ++ t₂ ∧
        Quoting destination request.payload (payloadSender .sovereign o destination signer)
          request.executionFeeLocation .sovereign t₁ (.ok (weight, fee))) :
      Plan origin destination request signer t .sovereign
        (quote ++ [(origin, .submit ((order request (.siblingParachain d) weight fee).scheduleCall
          .sovereign) signer)])
  | derivative {d o : UInt32} (weight : XcmWeight) (fee : UInt128) (call : Call)
      {fees fees' : List Errand} {quote quote' : Errands}
      (hd : destination.chain.paraId = some d) (ho : origin.chain.paraId = some o)
      (hf : FeeErrands destination request.executionFeeLocation fees)
      (hf' : FeeErrands origin request.scheduleFeeLocation fees')
      (he : quote = quoteErrands destination request.payload
        (payloadSender .derivative o destination signer) fees)
      (he' : quote' = quoteErrands origin
        ((order request (.siblingParachain d) weight fee).proxyCall
          (origin.derivativeAccount signer.account d))
        (origin.derivativeAccount signer.account d) fees')
      (hq : quote.length < t.length → ∃ t₁ t₂, t = t₁ ++ t₂ ∧
        Quoting destination request.payload (payloadSender .derivative o destination signer)
          request.executionFeeLocation .derivative t₁ (.ok (weight, fee)))
      (hq' : (quote ++ quote').length < t.length → ∃ t₁ t₂ report, t = t₁ ++ t₂ ∧
        Prepared origin destination request signer .derivative t₁ call report) :
      Plan origin destination request signer t .derivative
        (quote ++ quote' ++ [(destination, .submit call signer)])

theorem Course.asked {flow : Flow} {r : Except SchedulingError ScheduledTask}
    (h : Course origin destination request signer flow t r) :
    t = [] ∨ ∃ plan, Plan origin destination request signer t flow plan ∧ AskedFirst plan t := by
  cases h with
  | incapable => exact .inl rfl
  | homelessDestination => exact .inl rfl
  | homelessOrigin => exact .inl rfl
  | unquoted _ hd ho hq =>
    -- The plan goes on with any figures, since nothing of it is asked any more.
    obtain ⟨fees, hf, ha⟩ := hq.asked
    refine .inr ?_
    cases flow with
    | sovereign =>
      refine ⟨_, .sovereign ⟨[], .zero, .zero⟩ 0 hd ho hf rfl ?_, ha.more⟩
      intro hlt
      exact absurd ha.length_le (by omega)
    | derivative =>
      obtain ⟨fees', hf'⟩ := exists_feeErrands origin request.scheduleFeeLocation
      refine ⟨_, .derivative ⟨[], .zero, .zero⟩ 0 request.payload hd ho hf hf' rfl rfl ?_ ?_,
        ha.more.more⟩
      · intro hlt
        exact absurd ha.length_le (by omega)
      · intro hlt
        rw [List.length_append] at hlt
        exact absurd ha.length_le (by omega)
  | unquotedOrigin _ hd ho hq hq' =>
    obtain ⟨fees, hf, ha⟩ := hq.asked_of_ok
    obtain ⟨fees', hf', ha'⟩ := hq'.asked
    have both := ha.append_first ha'
    refine .inr ⟨_, .derivative _ _ request.payload hd ho hf hf' rfl rfl ?_ ?_, both.more⟩
    · exact fun _ => ⟨_, _, rfl, hq⟩
    · intro hlt
      exact absurd both.length_le (by omega)
  | submitting hp hs =>
    refine .inr ?_
    cases hp with
    | sovereign hd ho hq =>
      obtain ⟨fees, hf, ha⟩ := hq.asked_of_ok
      refine ⟨_, .sovereign _ _ hd ho hf rfl fun _ => ⟨_, _, rfl, hq⟩, ?_⟩
      rcases hs.asked with rfl | ha'
      · rw [List.append_nil]
        exact ha.first.more
      · exact (ha.append ha').first
    | derivative hr hd ho hq hq' hc =>
      obtain ⟨fees, hf, ha⟩ := hq.asked_of_ok
      obtain ⟨fees', hf', ha'⟩ := hq'.asked_of_ok
      refine ⟨_, .derivative _ _ _ hd ho hf hf' rfl rfl
        (fun _ => ⟨_, _, List.append_assoc _ _ _, hq⟩)
        fun _ => ⟨_, _, _, rfl, .derivative hr hd ho hq hq' hc⟩, ?_⟩
      rcases hs.asked with rfl | ha''
      · rw [List.append_nil]
        exact (ha.append ha').first.more
      · exact ((ha.append ha').append ha'').first

/-- What a run submits at last, when all steps before have come about, and what it reports. -/
theorem Course.submitted {flow : Flow} {r : Except SchedulingError ScheduledTask}
    (h : Course origin destination request signer flow t r) :
    submissions t = [] ∨ ∃ t₁ call report link bytes reply,
      Prepared origin destination request signer flow t₁ call report ∧
      (submitter flow origin destination).link = some link ∧ link.encodeCall call = .ok bytes ∧
      t = t₁ ++ [⟨.send link (.submit bytes signer), reply⟩] ∧
      ∀ task, r = .ok task → ∃ receipt, task = report receipt := by
  cases h with
  | incapable => exact .inl rfl
  | homelessDestination => exact .inl rfl
  | homelessOrigin => exact .inl rfl
  | unquoted _ _ _ hq => exact .inl hq.quiet.1
  | unquotedOrigin _ _ _ hq hq' =>
    refine .inl ?_
    rw [submissions_append, hq.quiet.1, hq'.quiet.1]
    rfl
  | submitting hp hs =>
    cases hs with
    | unlinked =>
      rw [List.append_nil]
      exact .inl hp.quiet.1
    | unencodable =>
      rw [List.append_nil]
      exact .inl hp.quiet.1
    | unanswered hl hc =>
      refine .inr ⟨_, _, _, _, _, _, hp, hl, hc, rfl, ?_⟩
      intro task h
      cases h
    | refused hl hc =>
      refine .inr ⟨_, _, _, _, _, _, hp, hl, hc, rfl, ?_⟩
      intro task h
      cases h
    | accepted hl hc =>
      refine .inr ⟨_, _, _, _, _, _, hp, hl, hc, rfl, ?_⟩
      intro task h
      cases h
      exact ⟨_, rfl⟩

end

/-! ### A run that goes through -/

namespace Sample

/-- Calls stand behind two zero bytes. -/
def link : Link := ⟨0, fun call => .ok (0 :: 0 :: call.args)⟩

def signer : Signer := ⟨.id32 .zero, fun _ => .ok []⟩

def adapter (chain : Chain) : Adapter := ⟨chain, some link⟩

def request (origin destination : Chain) : TaskRequest where
  schedule := .fixed [3600]
  payload := .new "System" "remark"
  scheduleFeeLocation := origin.defaultAsset.location
  executionFeeLocation := destination.defaultAsset.location

def info : PaymentInfo := ⟨⟨1000, 10⟩, 0, 0⟩

theorem quoting (chain : Chain) (call : Call) (sender : AccountId) (flow : Flow) {overall : Weight}
    (ho : (adapter chain).overallWeight? info.weight flow.instructionCount = some overall) :
    ∃ t, Quoting (adapter chain) call sender chain.defaultAsset.location flow t
      (.ok (⟨0 :: 0 :: call.args, info.weight, overall⟩, 1)) := by
  have native : chain.isNativeLocation chain.defaultAsset.location = true := beq_self_eq_true _
  exact ⟨_, .quoted (.weighed rfl rfl ho) (.nativePriced native rfl)⟩

theorem submitting (chain : Chain) (call : Call) :
    Submitting (adapter chain) call signer
      [⟨.send link (.submit (0 :: 0 :: call.args) signer), .ok (Receipt.submitted "0x")⟩]
      (.ok (.submitted "0x")) := .accepted rfl rfl rfl

theorem sovereign_course :
    ∃ t r, Course (adapter .turing) (adapter .mangata) (request .turing .mangata) signer .sovereign
      t r ∧ submissions t ≠ [] := by
  obtain ⟨t, hq⟩ := quoting .mangata (request .turing .mangata).payload
    (.siblingSovereign 2114 .id32) .sovereign rfl
  refine ⟨_, _, .submitting (.sovereign rfl rfl hq) (submitting _ _), ?_⟩
  simp [submissions, submission?]

theorem derivative_scheduled :
    ∃ t task, Course (adapter .turing) (adapter .shibuya) (request .turing .shibuya) signer
      .derivative t (.ok task) ∧ submissions t ≠ [] := by
  obtain ⟨t₁, hq⟩ := quoting .shibuya (request .turing .shibuya).payload signer.account
    .derivative rfl
  obtain ⟨t₂, hq'⟩ := quoting .turing
    ((order (request .turing .shibuya) (.siblingParachain 2000) _ _).proxyCall
      ((adapter .turing).derivativeAccount signer.account 2000))
    ((adapter .turing).derivativeAccount signer.account 2000) .derivative rfl
  refine ⟨_, _, .submitting (.derivative rfl rfl rfl hq hq' rfl) (submitting _ _), ?_⟩
  simp [submissions, submission?]

end Sample

section
variable {origin destination : Adapter} {request : TaskRequest} {signer : Signer}
variable {t : Transcript}

/-- The requests of a run are the first of a plan, and at most one call is submitted, at the end and
where the flow has it, once all quotes have been obtained. -/
theorem requests_in_order {flow : Flow} {r : Except SchedulingError ScheduledTask}
    (h : Runs (through flow origin destination request signer).run t r) :
    (t = [] ∨ ∃ plan, Plan origin destination request signer t flow plan ∧ AskedFirst plan t) ∧
    (submissions t = [] ∨ ∃ t₁ call report link bytes reply,
      Prepared origin destination request signer flow t₁ call report ∧ submissions t₁ = [] ∧
      (submitter flow origin destination).link = some link ∧ link.encodeCall call = .ok bytes ∧
      t = t₁ ++ [⟨.send link (.submit bytes signer), reply⟩]) := by
  have course := runs_through.mp h
  refine ⟨course.asked, ?_⟩
  rcases course.submitted with hn | ⟨t₁, call, report, link, bytes, reply, hp, hl, hc, ht, -⟩
  · exact .inl hn
  · exact .inr ⟨t₁, call, report, link, bytes, reply, hp, hp.quiet.1, hl, hc, ht⟩

theorem requests_in_order_mangata :
    ∃ t r, Runs (through .sovereign (Sample.adapter .turing) (Sample.adapter .mangata)
        (Sample.request .turing .mangata) Sample.signer).run t r ∧ submissions t ≠ [] ∧
      ∃ plan, Plan (Sample.adapter .turing) (Sample.adapter .mangata)
        (Sample.request .turing .mangata) Sample.signer t .sovereign plan ∧ AskedFirst plan t := by
  obtain ⟨t, r, h, hs⟩ := Sample.sovereign_course
  have run := runs_of_course h
  refine ⟨t, r, run, hs, ?_⟩
  rcases (requests_in_order run).1 with rfl | plan
  · exact absurd rfl hs
  · exact plan

end

end Scheduling

end XcmTasks

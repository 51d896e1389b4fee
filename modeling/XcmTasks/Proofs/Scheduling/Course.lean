import XcmTasks.Proofs.Adapter.Pricing
import XcmTasks.Scheduling.Basic

/-!
The ways that the scheduling of a task may go. Both flows first need the numbers of both parachains,
then quotes, of the payload on the destination and in the derivative flow of the registration on the
origin, and at last they submit one call. The first of these steps that fails ends the run.
-/

namespace XcmTasks

open Dialogue hiding bind_assoc
open Adapter

variable {t : Transcript}

theorem SchedulingError.atStage_of_unrefused {stage : SchedulingStage} {e : AdapterError}
    (h : e.Unrefused) : SchedulingError.atStage stage e = .failed stage e := by
  cases e with
  | rejected => exact h.elim
  | _ => rfl

namespace Scheduling

theorem runs_orFailAt {α : Type} {operation : Operation α} {stage : SchedulingStage}
    {r : Except SchedulingError α} :
    Runs (operation.orFailAt stage).run t r ↔
      ∃ r', Runs operation.run t r' ∧ r = r'.mapError (SchedulingError.atStage stage) :=
  runs_adapt

/-! ### Quotes -/

/-- Finds out what a call weighs on a chain, and what that costs in an asset. -/
def quote (a : Adapter) (call : Call) (sender : AccountId) (asset : Location) (flow : Flow) :
    Scheduling (XcmWeight × UInt128) := do
  let weight ← (a.xcmWeight call sender flow.instructionCount).orFailAt .weightsComputed
  let fee ← (a.weightToFee weight.overallWeight asset).orFailAt .feesComputed
  return (weight, fee)

inductive Quoting (a : Adapter) (call : Call) (sender : AccountId) (asset : Location)
    (flow : Flow) : Transcript → Except SchedulingError (XcmWeight × UInt128) → Prop where
  | unweighed {t : Transcript} {e : AdapterError}
      (hw : Weighing a call sender flow.instructionCount t (.error e)) :
      Quoting a call sender asset flow t (.error (.failed .weightsComputed e))
  | unpriced {t₁ t₂ : Transcript} {weight : XcmWeight} {e : AdapterError}
      (hw : Weighing a call sender flow.instructionCount t₁ (.ok weight))
      (hp : Pricing a weight.overallWeight asset t₂ (.error e)) :
      Quoting a call sender asset flow (t₁ ++ t₂) (.error (.failed .feesComputed e))
  | quoted {t₁ t₂ : Transcript} {weight : XcmWeight} {fee : UInt128}
      (hw : Weighing a call sender flow.instructionCount t₁ (.ok weight))
      (hp : Pricing a weight.overallWeight asset t₂ (.ok fee)) :
      Quoting a call sender asset flow (t₁ ++ t₂) (.ok (weight, fee))

theorem runs_quote {a : Adapter} {call : Call} {sender : AccountId} {asset : Location}
    {flow : Flow} {r : Except SchedulingError (XcmWeight × UInt128)} :
    Runs (quote a call sender asset flow).run t r ↔ Quoting a call sender asset flow t r := by
  unfold quote
  simp only [runs_except_bind, runs_orFailAt, runs_xcmWeight, runs_weightToFee, runs_except_pure]
  refine ⟨?_, ?_⟩
  · rintro (⟨e, ⟨e' | _, hw, he⟩, rfl⟩ | ⟨t₁, t₂, w, ⟨_ | w', hw, he⟩, h, rfl⟩)
    · cases he
      rw [SchedulingError.atStage_of_unrefused hw.unrefused]
      exact .unweighed hw
    · cases he
    · cases he
    · cases he
      rcases h with ⟨e, ⟨e' | _, hp, he⟩, rfl⟩ | ⟨t₂, t₃, f, ⟨_ | f', hp, he⟩, ⟨rfl, rfl⟩, rfl⟩
      · cases he
        rw [SchedulingError.atStage_of_unrefused hp.unrefused]
        exact .unpriced hw hp
      · cases he
      · cases he
      · cases he
        rw [List.append_nil]
        exact .quoted hw hp
  · intro h
    cases h with
    | unweighed hw =>
      refine .inl ⟨_, ⟨_, hw, ?_⟩, rfl⟩
      rw [← SchedulingError.atStage_of_unrefused hw.unrefused]
      rfl
    | unpriced hw hp =>
      refine .inr ⟨_, _, _, ⟨_, hw, rfl⟩, .inl ⟨_, ⟨_, hp, ?_⟩, rfl⟩, rfl⟩
      rw [← SchedulingError.atStage_of_unrefused hp.unrefused]
      rfl
    | quoted hw hp =>
      refine .inr ⟨_, _, _, ⟨_, hw, rfl⟩, .inr ⟨_, [], _, ⟨_, hp, rfl⟩, ⟨rfl, rfl⟩, ?_⟩, rfl⟩
      rw [List.append_nil]

/-! ### Numbers of parachains -/

@[simp] theorem require_ok {α : Type} {stage : SchedulingStage} {a : α} :
    require stage (.ok a) = pure a := rfl

theorem require_error {α : Type} {stage : SchedulingStage} {e : AdapterError} :
    (require stage (.error e) : Scheduling α) = throw (.atStage stage e) := rfl

variable {a : Adapter}

theorem location_of_some {paraId : UInt32} (hp : a.chain.paraId = some paraId) :
    a.location = .ok (.siblingParachain paraId) := by
  unfold location
  rw [requireParaId_of_some hp]
  rfl

theorem location_of_none (hp : a.chain.paraId = none) :
    a.location = .error (.configuration ("chain " ++ a.key ++ " has no para id")) := by
  unfold location
  rw [requireParaId_of_none hp]
  rfl

theorem originParaId_of_some {paraId : UInt32} (hp : a.chain.paraId = some paraId) :
    originParaId a = .ok paraId := by
  unfold originParaId
  rw [hp]

theorem originParaId_of_none (hp : a.chain.paraId = none) :
    originParaId a = .error (.configuration ("origin chain " ++ a.key ++ " has no para id")) := by
  unfold originParaId
  rw [hp]

/-! ### The flows -/

variable {origin destination : Adapter} {request : TaskRequest} {signer : Signer}

/-- The destination can do what the flow needs of it. -/
def Capable (flow : Flow) (destination : Adapter) : Prop :=
  flow = .derivative → destination.chain.family.registrar?.isSome = true

/-- The account that the payload runs as. -/
def payloadSender (flow : Flow) (originId : UInt32) (destination : Adapter) (signer : Signer) :
    AccountId :=
  match flow with
  | .sovereign => .siblingSovereign originId destination.chain.accountKind
  | .derivative => signer.account

/-- Where the call of a flow is submitted. -/
def submitter (flow : Flow) (origin destination : Adapter) : Adapter :=
  match flow with
  | .sovereign => origin
  | .derivative => destination

/-- What is wrong with an origin that has no number. -/
def homelessOrigin (flow : Flow) (origin : Adapter) : AdapterError :=
  match flow with
  | .sovereign => .configuration ("origin chain " ++ origin.key ++ " has no para id")
  | .derivative => .configuration ("chain " ++ origin.key ++ " has no para id")

/-- All steps before the submission came about: they asked what is in the transcript, and it
remains to submit the call and to report the receipt. -/
inductive Prepared (origin destination : Adapter) (request : TaskRequest) (signer : Signer) :
    Flow → Transcript → Call → (Receipt → ScheduledTask) → Prop where
  | sovereign {d o : UInt32} {t : Transcript} {weight : XcmWeight} {fee : UInt128}
      (hd : destination.chain.paraId = some d) (ho : origin.chain.paraId = some o)
      (hq : Quoting destination request.payload (payloadSender .sovereign o destination signer)
        request.executionFeeLocation .sovereign t (.ok (weight, fee))) :
      Prepared origin destination request signer .sovereign t
        ((order request (.siblingParachain d) weight fee).scheduleCall .sovereign)
        fun receipt => scheduled .sovereign receipt weight fee none none
  | derivative {d o : UInt32} {t₁ t₂ : Transcript} {weight originWeight : XcmWeight}
      {fee scheduleFee : UInt128} {registrar : Registration → Except AdapterError Call}
      {call : Call} (hr : destination.chain.family.registrar? = some registrar)
      (hd : destination.chain.paraId = some d) (ho : origin.chain.paraId = some o)
      (hq : Quoting destination request.payload (payloadSender .derivative o destination signer)
        request.executionFeeLocation .derivative t₁ (.ok (weight, fee)))
      (hq' : Quoting origin ((order request (.siblingParachain d) weight fee).proxyCall
          (origin.derivativeAccount signer.account d))
        (origin.derivativeAccount signer.account d) request.scheduleFeeLocation .derivative t₂
        (.ok (originWeight, scheduleFee)))
      (hc : registrar ⟨.siblingParachain o, request.scheduleFeeLocation,
        originWeight.withFee scheduleFee, origin.derivativeAccount signer.account d⟩ = .ok call) :
      Prepared origin destination request signer .derivative (t₁ ++ t₂) call
        fun receipt => scheduled .derivative receipt weight fee
          (some (origin.derivativeAccount signer.account d))
          (some (originWeight.withFee scheduleFee))

def conclude (report : Receipt → ScheduledTask) :
    Except AdapterError Receipt → Except SchedulingError ScheduledTask
  | .ok receipt => .ok (report receipt)
  | .error e => .error (.atStage .submitted e)

inductive Course (origin destination : Adapter) (request : TaskRequest) (signer : Signer) :
    Flow → Transcript → Except SchedulingError ScheduledTask → Prop where
  | incapable (hr : destination.chain.family.registrar? = none) :
      Course origin destination request signer .derivative []
        (.error (.capabilityMissing destination.key))
  | homelessDestination {flow : Flow} (hc : Capable flow destination)
      (hd : destination.chain.paraId = none) :
      Course origin destination request signer flow []
        (.error (.failed .buildingPayload
          (.configuration ("chain " ++ destination.key ++ " has no para id"))))
  | homelessOrigin {flow : Flow} {d : UInt32} (hc : Capable flow destination)
      (hd : destination.chain.paraId = some d) (ho : origin.chain.paraId = none) :
      Course origin destination request signer flow []
        (.error (.failed .buildingPayload (homelessOrigin flow origin)))
  | unquoted {flow : Flow} {d o : UInt32} {t : Transcript} {e : SchedulingError}
      (hc : Capable flow destination)
      (hd : destination.chain.paraId = some d) (ho : origin.chain.paraId = some o)
      (hq : Quoting destination request.payload (payloadSender flow o destination signer)
        request.executionFeeLocation flow t (.error e)) :
      Course origin destination request signer flow t (.error e)
  | unquotedOrigin {d o : UInt32} {t₁ t₂ : Transcript} {weight : XcmWeight} {fee : UInt128}
      {e : SchedulingError} (hc : Capable .derivative destination)
      (hd : destination.chain.paraId = some d) (ho : origin.chain.paraId = some o)
      (hq : Quoting destination request.payload (payloadSender .derivative o destination signer)
        request.executionFeeLocation .derivative t₁ (.ok (weight, fee)))
      (hq' : Quoting origin ((order request (.siblingParachain d) weight fee).proxyCall
          (origin.derivativeAccount signer.account d))
        (origin.derivativeAccount signer.account d) request.scheduleFeeLocation .derivative t₂
        (.error e)) :
      Course origin destination request signer .derivative (t₁ ++ t₂) (.error e)
  | submitting {flow : Flow} {t₁ t₂ : Transcript} {call : Call}
      {report : Receipt → ScheduledTask} {r : Except AdapterError Receipt}
      (hp : Prepared origin destination request signer flow t₁ call report)
      (hs : Submitting (submitter flow origin destination) call signer t₂ r) :
      Course origin destination request signer flow (t₁ ++ t₂) (conclude report r)

theorem runs_conclude {call : Call} {report : Receipt → ScheduledTask}
    {r : Except SchedulingError ScheduledTask} :
    Runs (do
        let receipt ← (a.submit call signer).orFailAt .submitted
        return report receipt : Scheduling ScheduledTask).run t r ↔
      ∃ r', Submitting a call signer t r' ∧ r = conclude report r' := by
  simp only [runs_except_bind, runs_orFailAt, runs_submit, runs_except_pure]
  refine ⟨?_, ?_⟩
  · rintro (⟨e, ⟨e' | _, hs, he⟩, rfl⟩ | ⟨t₁, t₂, receipt, ⟨_ | _, hs, he⟩, ⟨rfl, rfl⟩, rfl⟩)
    · cases he
      exact ⟨_, hs, rfl⟩
    · cases he
    · cases he
    · cases he
      rw [List.append_nil]
      exact ⟨_, hs, rfl⟩
  · rintro ⟨e | receipt, hs, rfl⟩
    · exact .inl ⟨_, ⟨_, hs, rfl⟩, rfl⟩
    · exact .inr ⟨t, [], receipt, ⟨_, hs, rfl⟩, ⟨rfl, rfl⟩, by simp⟩

theorem through_of_incapable (hr : destination.chain.family.registrar? = none) :
    through .derivative origin destination request signer =
      throw (.capabilityMissing destination.key) := by
  unfold through throughDerivative
  simp only [hr]

theorem through_of_homelessDestination {flow : Flow} (hc : Capable flow destination)
    (hd : destination.chain.paraId = none) :
    through flow origin destination request signer =
      throw (.failed .buildingPayload
        (.configuration ("chain " ++ destination.key ++ " has no para id"))) := by
  cases flow with
  | sovereign =>
    unfold through throughSovereign
    rw [location_of_none hd]
    rfl
  | derivative =>
    obtain ⟨registrar, hr⟩ := Option.isSome_iff_exists.mp (hc rfl)
    unfold through throughDerivative
    simp only [hr]
    rw [location_of_none hd]
    rfl

theorem through_of_homelessOrigin {flow : Flow} {d : UInt32} (hc : Capable flow destination)
    (hd : destination.chain.paraId = some d) (ho : origin.chain.paraId = none) :
    through flow origin destination request signer =
      throw (.failed .buildingPayload (homelessOrigin flow origin)) := by
  cases flow with
  | sovereign =>
    unfold through throughSovereign
    rw [location_of_some hd, originParaId_of_none ho]
    rfl
  | derivative =>
    obtain ⟨registrar, hr⟩ := Option.isSome_iff_exists.mp (hc rfl)
    unfold through throughDerivative
    simp only [hr]
    rw [location_of_some hd, location_of_none ho]
    rfl

theorem through_sovereign {d o : UInt32} (hd : destination.chain.paraId = some d)
    (ho : origin.chain.paraId = some o) :
    through .sovereign origin destination request signer = do
      let (weight, fee) ← quote destination request.payload
        (payloadSender .sovereign o destination signer) request.executionFeeLocation .sovereign
      let receipt ← (origin.submit
        ((order request (.siblingParachain d) weight fee).scheduleCall .sovereign)
        signer).orFailAt .submitted
      return scheduled .sovereign receipt weight fee none none := by
  unfold through throughSovereign
  rw [location_of_some hd, originParaId_of_some ho]
  simp only [require_ok, pure_bind]
  rfl

theorem through_derivative {d o : UInt32} {registrar : Registration → Except AdapterError Call}
    (hr : destination.chain.family.registrar? = some registrar)
    (hd : destination.chain.paraId = some d) (ho : origin.chain.paraId = some o) :
    through .derivative origin destination request signer = do
      let (weight, fee) ← quote destination request.payload
        (payloadSender .derivative o destination signer) request.executionFeeLocation .derivative
      let derivative := origin.derivativeAccount signer.account d
      let (originWeight, scheduleFee) ← quote origin
        ((order request (.siblingParachain d) weight fee).proxyCall derivative) derivative
        request.scheduleFeeLocation .derivative
      let registration := originWeight.withFee scheduleFee
      let call ← require .extrinsicBuilt
        (registrar ⟨.siblingParachain o, request.scheduleFeeLocation, registration, derivative⟩)
      let receipt ← (destination.submit call signer).orFailAt .submitted
      return scheduled .derivative receipt weight fee (some derivative) (some registration) := by
  unfold through throughDerivative
  simp only [hr]
  rw [location_of_some hd, location_of_some ho]
  simp only [require_ok, pure_bind, destinationFigures, quote, bind_assoc]
  rfl

theorem registrar_sibling {family : ChainFamily}
    {registrar : Registration → Except AdapterError Call} (hr : family.registrar? = some registrar)
    (o : UInt32) (fees : Location) (info : TransactInfo) (account : AccountId) :
    ∃ call, registrar ⟨.siblingParachain o, fees, info, account⟩ = .ok call := by
  cases family with
  | oak => cases hr
  | mangata => cases hr
  | moonbeam =>
    cases hr
    exact ⟨_, rfl⟩
  | astar =>
    cases hr
    exact ⟨_, rfl⟩

theorem course_of_runs {flow : Flow} {r : Except SchedulingError ScheduledTask}
    (h : Runs (through flow origin destination request signer).run t r) :
    Course origin destination request signer flow t r := by
  by_cases hc : Capable flow destination
  · cases hd : destination.chain.paraId with
    | none =>
      rw [through_of_homelessDestination hc hd, runs_throw] at h
      obtain ⟨rfl, rfl⟩ := h
      exact .homelessDestination hc hd
    | some d =>
      cases ho : origin.chain.paraId with
      | none =>
        rw [through_of_homelessOrigin hc hd ho, runs_throw] at h
        obtain ⟨rfl, rfl⟩ := h
        exact .homelessOrigin hc hd ho
      | some o =>
        cases flow with
        | sovereign =>
          rw [through_sovereign hd ho, runs_except_bind] at h
          simp only [runs_quote, runs_conclude] at h
          rcases h with ⟨e, hq, rfl⟩ | ⟨t₁, t₂, ⟨weight, fee⟩, hq, ⟨r', hs, rfl⟩, rfl⟩
          · exact .unquoted hc hd ho hq
          · exact .submitting (.sovereign hd ho hq) hs
        | derivative =>
          obtain ⟨registrar, hr⟩ := Option.isSome_iff_exists.mp (hc rfl)
          rw [through_derivative hr hd ho, runs_except_bind] at h
          simp only [runs_quote] at h
          rcases h with ⟨e, hq, rfl⟩ | ⟨t₁, t₂, ⟨weight, fee⟩, hq, h, rfl⟩
          · exact .unquoted hc hd ho hq
          · rw [runs_except_bind] at h
            simp only [runs_quote] at h
            rcases h with ⟨e, hq', rfl⟩ | ⟨t₂, t₃, ⟨originWeight, scheduleFee⟩, hq', h, rfl⟩
            · exact .unquotedOrigin hc hd ho hq hq'
            · obtain ⟨call, hcall⟩ := registrar_sibling hr o request.scheduleFeeLocation
                (originWeight.withFee scheduleFee) (origin.derivativeAccount signer.account d)
              simp only [hcall, require_ok, pure_bind, runs_conclude] at h
              obtain ⟨r', hs, rfl⟩ := h
              rw [← List.append_assoc]
              exact .submitting (.derivative hr hd ho hq hq' hcall) hs
  · obtain ⟨rfl, hr⟩ : flow = .derivative ∧ destination.chain.family.registrar? = none := by
      simpa [Capable] using hc
    rw [through_of_incapable hr, runs_throw] at h
    obtain ⟨rfl, rfl⟩ := h
    exact .incapable hr

theorem runs_of_course {flow : Flow} {r : Except SchedulingError ScheduledTask}
    (h : Course origin destination request signer flow t r) :
    Runs (through flow origin destination request signer).run t r := by
  cases h with
  | incapable hr =>
    rw [through_of_incapable hr]
    exact runs_throw.mpr ⟨rfl, rfl⟩
  | homelessDestination hc hd =>
    rw [through_of_homelessDestination hc hd]
    exact runs_throw.mpr ⟨rfl, rfl⟩
  | homelessOrigin hc hd ho =>
    rw [through_of_homelessOrigin hc hd ho]
    exact runs_throw.mpr ⟨rfl, rfl⟩
  | unquoted hc hd ho hq =>
    cases flow with
    | sovereign =>
      rw [through_sovereign hd ho, runs_except_bind]
      exact .inl ⟨_, runs_quote.mpr hq, rfl⟩
    | derivative =>
      obtain ⟨registrar, hr⟩ := Option.isSome_iff_exists.mp (hc rfl)
      rw [through_derivative hr hd ho, runs_except_bind]
      exact .inl ⟨_, runs_quote.mpr hq, rfl⟩
  | unquotedOrigin hc hd ho hq hq' =>
    obtain ⟨registrar, hr⟩ := Option.isSome_iff_exists.mp (hc rfl)
    rw [through_derivative hr hd ho, runs_except_bind]
    refine .inr ⟨_, _, _, runs_quote.mpr hq, ?_, rfl⟩
    rw [runs_except_bind]
    exact .inl ⟨_, runs_quote.mpr hq', rfl⟩
  | submitting hp hs =>
    cases hp with
    | sovereign hd ho hq =>
      rw [through_sovereign hd ho, runs_except_bind]
      exact .inr ⟨_, _, _, runs_quote.mpr hq, runs_conclude.mpr ⟨_, hs, rfl⟩, rfl⟩
    | derivative hr hd ho hq hq' hcall =>
      rw [through_derivative hr hd ho, runs_except_bind]
      refine .inr ⟨_, _, _, runs_quote.mpr hq, ?_, List.append_assoc _ _ _⟩
      rw [runs_except_bind]
      refine .inr ⟨_, _, _, runs_quote.mpr hq', ?_, rfl⟩
      simp only [hcall, require_ok, pure_bind]
      exact runs_conclude.mpr ⟨_, hs, rfl⟩

/-- The runs of a scheduling are the courses that it may take, and no others. -/
theorem runs_through {flow : Flow} {r : Except SchedulingError ScheduledTask} :
    Runs (through flow origin destination request signer).run t r ↔
      Course origin destination request signer flow t r :=
  ⟨course_of_runs, runs_of_course⟩

end Scheduling

end XcmTasks

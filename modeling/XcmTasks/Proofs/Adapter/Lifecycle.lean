import XcmTasks.Proofs.Adapter.Connections

/-!
What holds of an adapter at each point of its life: when it is ready, what can be done with it then
and otherwise, and which connection its requests go to.
-/

namespace XcmTasks

open Dialogue

namespace Adapter

def Turn.Opens : Turn → Prop
  | ⟨.connect, _, .ok _⟩ => True
  | _ => False

/-- Disconnecting has found a connection, of which it asked the end. An adapter that is ready has
one, and no other adapter has. -/
def Turn.Releases : Turn → Prop
  | ⟨.disconnect, _ :: _, _⟩ => True
  | _ => False

/-- Connecting has succeeded since disconnecting has found a connection for the last time. -/
def Opened (turns : List Turn) : Prop :=
  ∃ pre turn post, turns = pre ++ turn :: post ∧ turn.Opens ∧ ∀ later ∈ post, ¬ later.Releases

/-- What holds of an adapter that has come here through these turns. -/
structure Orderly (chain : Chain) (turns : List Turn) (a : Adapter) : Prop where
  ready : a.isReady = true ↔ Opened turns
  /-- There is no second attempt. -/
  already : a.isReady = true → ∀ t r a', Runs a.connect t (r, a') ↔
    t = [] ∧ r = .error (.alreadyInitialized chain.key) ∧ a' = a
  /-- There is one attempt, and the adapter is ready after it if it succeeds. -/
  connecting : a.isReady = false → ∀ t r a', Runs a.connect t (r, a') ↔
    ∃ reply : Except NodeError Link, t = [⟨.connect chain, reply⟩] ∧
      r = (reply.mapError .ofNode).map (fun _ => ()) ∧ a' = ⟨chain, reply.toOption⟩
  asking : ∀ t r a', Runs (Step.isReady.perform a) t (r, a') ↔ t = [] ∧ r = a.isReady ∧ a' = a
  disconnecting : a.isReady = false → ∀ t r a', Runs a.disconnect t (r, a') ↔
    t = [] ∧ r = .error (.notInitialized chain.key) ∧ a' = a
  /-- The end of the connection is asked for once, and the link is given up whatever is replied. -/
  releasing : a.isReady = true → ∀ t r a', Runs a.disconnect t (r, a') ↔
    ∃ (link : Link) (reply : Except NodeError Unit), a.link = some link ∧
      t = [⟨.send link .disconnect, reply⟩] ∧ r = reply.mapError .ofNode ∧ a' = .new chain
  unready : a.isReady = false → ∀ (u : Use) t r, Runs (u.operation a).run t r ↔
    t = [] ∧ r = .error (u.refusal chain)
  /-- A request goes over the connection that was opened last, and not after its end. -/
  addressed : ∀ (pre post : Transcript) (link : Link) (request : Request)
    (reply : Except NodeError request.Answer),
    transcript turns = pre ++ ⟨.send link request, reply⟩ :: post →
      ∃ c others, connections pre = c :: others ∧ c.link = link ∧ c.Open
  /-- At most one request for its end goes over a connection, and none after it. -/
  ending : ∀ c ∈ connections (transcript turns), c.Open ∨ c.Released

variable {chain : Chain} {turns : List Turn} {turn : Turn} {a a' : Adapter} {t : Transcript}

theorem isReady_eq_true : a.isReady = true ↔ ∃ link, a.link = some link := Option.isSome_iff_exists

theorem isReady_eq_false : a.isReady = false ↔ a.link = none :=
  Option.isSome_eq_false_iff.trans Option.isNone_iff_eq_none

/-! ### Readiness -/

theorem opened_snoc : Opened (turns ++ [turn]) ↔ turn.Opens ∨ Opened turns ∧ ¬ turn.Releases := by
  refine ⟨?_, ?_⟩
  · rintro ⟨pre, x, post, ht, ho, hr⟩
    rcases List.eq_nil_or_concat post with rfl | ⟨post, last, rfl⟩
    · obtain ⟨-, hx⟩ := List.append_inj' ht rfl
      cases hx
      exact .inl ho
    · rw [List.concat_eq_append, ← List.cons_append, ← List.append_assoc] at ht
      obtain ⟨rfl, hx⟩ := List.append_inj' ht rfl
      cases hx
      rw [List.concat_eq_append] at hr
      obtain ⟨hr, hl⟩ := List.forall_mem_append.mp hr
      exact .inr ⟨⟨pre, x, post, rfl, ho, hr⟩, hl _ (List.mem_singleton_self _)⟩
  · rintro (ho | ⟨⟨pre, x, post, rfl, ho, hr⟩, hl⟩)
    · exact ⟨turns, turn, [], rfl, ho, List.forall_mem_nil _⟩
    · refine ⟨pre, x, post ++ [turn], by simp, ho, ?_⟩
      exact List.forall_mem_append.mpr ⟨hr, fun x hx => List.mem_singleton.mp hx ▸ hl⟩

theorem Life.ready (h : Life chain turns a) : a.isReady = true ↔ Opened turns := by
  induction h with
  | new => simp [isReady, Adapter.new, Opened]
  | @snoc turns a a' turn h hr ih =>
    obtain ⟨step, t, r⟩ := turn
    rw [opened_snoc]
    cases step with
    | connect =>
      cases runs_connect.mp hr with
      | already => simp [Turn.Opens, Turn.Releases, ih]
      | unreachable => simp [Turn.Opens, Turn.Releases, ih]
      | connected => simp [Turn.Opens, isReady]
    | disconnect =>
      cases runs_disconnect.mp hr with
      | unlinked => simp [Turn.Opens, Turn.Releases, ih]
      | released => simp [Turn.Opens, Turn.Releases, isReady]
    | isReady =>
      obtain ⟨-, -, rfl⟩ := runs_isReady.mp hr
      simp [Turn.Opens, Turn.Releases, ih]
    | use u =>
      obtain ⟨-, rfl⟩ := runs_use.mp hr
      simp [Turn.Opens, Turn.Releases, ih]

/-! ### Steps -/

theorem connect_of_ready (hr : a.isReady = true) {r : Except AdapterError Unit} :
    Runs a.connect t (r, a') ↔ t = [] ∧ r = .error (.alreadyInitialized a.key) ∧ a' = a := by
  obtain ⟨link, hl⟩ := isReady_eq_true.mp hr
  rw [runs_connect]
  refine ⟨?_, ?_⟩
  · intro h
    cases h with
    | already => exact ⟨rfl, rfl, rfl⟩
    | unreachable hn => cases hl.symm.trans hn
    | connected hn => cases hl.symm.trans hn
  · rintro ⟨rfl, rfl, rfl⟩
    exact .already hl

theorem connect_of_unready (hr : a.isReady = false) {r : Except AdapterError Unit} :
    Runs a.connect t (r, a') ↔ ∃ reply : Except NodeError Link, t = [⟨.connect a.chain, reply⟩] ∧
      r = (reply.mapError .ofNode).map (fun _ => ()) ∧ a' = ⟨a.chain, reply.toOption⟩ := by
  obtain ⟨chain, link⟩ := a
  obtain rfl : link = none := isReady_eq_false.mp hr
  rw [runs_connect]
  refine ⟨?_, ?_⟩
  · intro h
    cases h with
    | already hs => cases hs
    | unreachable => exact ⟨.error _, rfl, rfl, rfl⟩
    | connected => exact ⟨.ok _, rfl, rfl, rfl⟩
  · rintro ⟨e | link, rfl, rfl, rfl⟩
    · exact .unreachable rfl
    · exact .connected rfl

theorem disconnect_of_unready (hr : a.isReady = false) {r : Except AdapterError Unit} :
    Runs a.disconnect t (r, a') ↔ t = [] ∧ r = .error (.notInitialized a.key) ∧ a' = a := by
  have hl := isReady_eq_false.mp hr
  rw [runs_disconnect]
  refine ⟨?_, ?_⟩
  · intro h
    cases h with
    | unlinked => exact ⟨rfl, rfl, rfl⟩
    | released hs => cases hl.symm.trans hs
  · rintro ⟨rfl, rfl, rfl⟩
    exact .unlinked hl

theorem disconnect_of_ready (hr : a.isReady = true) {r : Except AdapterError Unit} :
    Runs a.disconnect t (r, a') ↔
      ∃ (link : Link) (reply : Except NodeError Unit), a.link = some link ∧
        t = [⟨.send link .disconnect, reply⟩] ∧ r = reply.mapError .ofNode ∧ a' = .new a.chain := by
  obtain ⟨held, hl⟩ := isReady_eq_true.mp hr
  rw [runs_disconnect]
  refine ⟨?_, ?_⟩
  · intro h
    cases h with
    | unlinked hn => cases hl.symm.trans hn
    | released hs => exact ⟨_, _, hs, rfl, rfl, rfl⟩
  · rintro ⟨link, reply, hs, rfl, rfl, rfl⟩
    exact .released hs

theorem use_of_unready (hr : a.isReady = false) {u : Use} {r : Except AdapterError u.Result} :
    Runs (u.operation a).run t r ↔ t = [] ∧ r = .error (u.refusal a.chain) := by
  rw [operation_of_unlinked u (isReady_eq_false.mp hr)]
  exact runs_throw

theorem Life.orderly (h : Life chain turns a) : Orderly chain turns a := by
  have hc := h.chain_eq
  subst hc
  refine ⟨h.ready, ?_, ?_, ?_, ?_, ?_, ?_, ?_, ?_⟩
  · exact fun hr t r a' => connect_of_ready hr
  · exact fun hr t r a' => connect_of_unready hr
  · exact fun t r a' => runs_isReady
  · exact fun hr t r a' => disconnect_of_unready hr
  · exact fun hr t r a' => disconnect_of_ready hr
  · exact fun hr u t r => use_of_unready hr
  · exact fun pre post link request reply ht => (h.addressed ht).latest
  · exact fun c hc => (h.ledger.mem hc).imp And.left id

/-- The node does not end the connection, which has been given up nevertheless. -/
theorem orderly_turing :
    Orderly .turing
      [.connected .turing ⟨0, fun _ => .ok []⟩,
        .disconnected ⟨0, fun _ => .ok []⟩ (.error (.transport "timeout"))] (.new .turing) :=
  (life_connected_disconnected .turing _ _).orderly

end Adapter

end XcmTasks

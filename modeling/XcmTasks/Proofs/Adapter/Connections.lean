import Mathlib.Data.List.Induction
import XcmTasks.Chain.Local
import XcmTasks.Proofs.Adapter.Life

/-!
The connections that an adapter is handed over its life. Each attempt that succeeds opens one, and
requests belong to the latest. An adapter gives a connection up before it knows that the node has
ended it, so a connection that is no longer held is closed unless its end has failed.
-/

namespace XcmTasks

open Dialogue

namespace Adapter

/-- A connection that an attempt has opened, and what has been sent over it. -/
structure Connection where
  link : Link
  exchanges : Transcript

namespace Connection

def Open (c : Connection) : Prop := ∀ x ∈ c.exchanges, c.link.Carries x

/-- The last request was to end it, and the only one of this kind. -/
def Ended (c : Connection) (reply : Except NodeError Unit) : Prop :=
  ∃ asked, (∀ x ∈ asked, c.link.Carries x) ∧
    c.exchanges = asked ++ [⟨.send c.link .disconnect, reply⟩]

def Released (c : Connection) : Prop := ∃ reply, c.Ended reply

def Closed (c : Connection) : Prop := c.Ended (.ok ())

end Connection

def record (cs : List Connection) : Exchange Action Action.Answer → List Connection
  | ⟨.connect _, .ok link⟩ => ⟨link, []⟩ :: cs
  | ⟨.connect _, .error _⟩ => cs
  | sent => cs.modifyHead fun c => { c with exchanges := c.exchanges ++ [sent] }

/-- The connections that have been opened, the latest first. -/
def connections (t : Transcript) : List Connection := t.foldl record []

/-- Either all connections are settled and none is held, or the latest is open and held, and all
others are settled. -/
inductive Ledger (settled : Connection → Prop) : Option Link → List Connection → Prop where
  | idle {cs : List Connection} (hs : ∀ c ∈ cs, settled c) : Ledger settled none cs
  | holding {c : Connection} {cs : List Connection} (ho : c.Open) (hs : ∀ c ∈ cs, settled c) :
      Ledger settled (some c.link) (c :: cs)

variable {chain : Chain} {turns : List Turn} {a a' : Adapter} {t t' : Transcript}
variable {cs : List Connection} {settled : Connection → Prop}

theorem connections_append : connections (t ++ t') = t'.foldl record (connections t) :=
  List.foldl_append

theorem connections_snoc {x : Exchange Action Action.Answer} :
    connections (t ++ [x]) = record (connections t) x := connections_append

/-! ### What is sent -/

theorem record_grows (x : Exchange Action Action.Answer) {c : Connection} (hc : c ∈ cs) :
    ∃ c' ∈ record cs x, c.exchanges ⊆ c'.exchanges := by
  obtain ⟨action | ⟨link, request⟩, reply⟩ := x
  · cases reply with
    | ok link => exact ⟨c, List.mem_cons_of_mem _ hc, List.Subset.refl _⟩
    | error e => exact ⟨c, hc, List.Subset.refl _⟩
  · cases hc with
    | head => exact ⟨_, List.mem_cons_self, List.subset_append_left _ _⟩
    | tail _ hc => exact ⟨c, List.mem_cons_of_mem _ hc, List.Subset.refl _⟩

theorem foldl_record_grows {c : Connection} (hc : c ∈ cs) :
    ∃ c' ∈ t.foldl record cs, c.exchanges ⊆ c'.exchanges := by
  induction t generalizing cs c with
  | nil => exact ⟨c, hc, List.Subset.refl _⟩
  | cons x t ih =>
    obtain ⟨c', hc', sub⟩ := record_grows x hc
    obtain ⟨c'', hc'', sub'⟩ := ih hc'
    exact ⟨c'', hc'', List.Subset.trans sub sub'⟩

theorem exchanges_subset {c : Connection} (hc : c ∈ connections t) : c.exchanges ⊆ t := by
  induction t using List.reverseRecOn generalizing c with
  | nil => cases hc
  | append_singleton t x ih =>
    rw [connections_snoc] at hc
    have older {c : Connection} (hc : c ∈ connections t) : c.exchanges ⊆ t ++ [x] :=
      List.Subset.trans (ih hc) (List.subset_append_left _ _)
    obtain ⟨action | ⟨link, request⟩, reply⟩ := x
    · cases reply with
      | ok link =>
        rcases List.mem_cons.mp hc with rfl | hc
        · exact List.nil_subset _
        · exact older hc
      | error e => exact older hc
    · cases hcs : connections t with
      | nil =>
        rw [hcs] at hc
        cases hc
      | cons d ds =>
        rw [hcs] at hc
        rcases List.mem_cons.mp hc with rfl | hc
        · refine List.append_subset.mpr ⟨older (hcs ▸ List.mem_cons_self), ?_⟩
          exact List.subset_append_right _ _
        · exact older (hcs ▸ List.mem_cons_of_mem _ hc)

/-! ### What is held -/

theorem Ledger.latest {link : Link} (h : Ledger settled (some link) cs) :
    ∃ c others, cs = c :: others ∧ c.link = link ∧ c.Open := by
  cases h with
  | holding ho => exact ⟨_, _, rfl, rfl, ho⟩

theorem Ledger.mem {held : Option Link} (h : Ledger settled held cs) {c : Connection}
    (hc : c ∈ cs) : c.Open ∧ held = some c.link ∨ settled c := by
  cases h with
  | idle hs => exact .inr (hs c hc)
  | holding ho hs =>
    rcases List.mem_cons.mp hc with rfl | hc
    · exact .inl ⟨ho, rfl⟩
    · exact .inr (hs c hc)

/-- Requests over the link that is held do not end it. -/
theorem Ledger.asked (h : Ledger settled a.link cs) (ha : ∀ x ∈ t, a.Asks x) :
    Ledger settled a.link (t.foldl record cs) := by
  induction t generalizing cs with
  | nil => exact h
  | cons x t ih =>
    obtain ⟨⟨link, hl, hx⟩, ha⟩ := List.forall_mem_cons.mp ha
    refine ih ?_ ha
    rw [hl] at h ⊢
    cases h with
    | @holding c cs ho hs =>
      obtain ⟨action | ⟨link, request⟩, reply⟩ := x
      · exact hx.elim
      · refine Ledger.holding (c := ⟨c.link, c.exchanges ++ [⟨.send link request, reply⟩]⟩) ?_ hs
        exact List.forall_mem_append.mpr ⟨ho, List.forall_mem_singleton.mpr hx⟩

/-- A link that is given up belongs to a connection that has been asked to end, whatever the reply,
and no other step settles one. -/
theorem Ledger.change (h : Ledger Connection.Released a.link cs) (hc : Change a t a') :
    Ledger Connection.Released a'.link (t.foldl record cs) := by
  cases hc with
  | kept ha => exact h.asked ha
  | unreached hl => exact h
  | opened hl =>
    rw [hl] at h
    cases h with
    | @idle cs hs =>
      have fresh (link : Link) : (⟨link, []⟩ : Connection).Open := List.forall_mem_nil _
      exact .holding (fresh _) hs
  | released hl =>
    rw [hl] at h
    cases h with
    | holding ho hs => exact .idle (List.forall_mem_cons.mpr ⟨⟨_, _, ho, rfl⟩, hs⟩)

theorem Life.ledger (h : Life chain turns a) :
    Ledger Connection.Released a.link (connections (transcript turns)) := by
  induction h with
  | new => exact .idle (List.forall_mem_nil _)
  | snoc turn _ hr ih =>
    rw [transcript_snoc, connections_append]
    exact ih.change (change_of_step hr)

/-- Whenever a request is sent, the connection that it goes over is held. -/
theorem Life.addressed (h : Life chain turns a) {pre post : Transcript} {link : Link}
    {request : Request} {reply : Except NodeError request.Answer}
    (ht : transcript turns = pre ++ ⟨.send link request, reply⟩ :: post) :
    Ledger Connection.Released (some link) (connections pre) := by
  induction h generalizing pre post with
  | new => simp [transcript] at ht
  | @snoc turns a a' turn h hr ih =>
    rw [transcript_snoc] at ht
    -- the request is one of this turn, or one of those before it
    have now {pre' : Transcript} (hp : pre = transcript turns ++ pre')
        (ht : turn.exchanges = pre' ++ ⟨.send link request, reply⟩ :: post) :
        Ledger Connection.Released (some link) (connections pre) := by
      obtain ⟨hl, ha⟩ := Change.before (ht ▸ change_of_step hr)
      rw [hp, connections_append, ← hl]
      exact h.ledger.asked ha
    rcases List.append_eq_append_iff.mp ht with ⟨pre', hp, ht⟩ | ⟨rest, hp, ht⟩
    · exact now hp ht
    · cases rest with
      | nil =>
        rw [List.append_nil] at hp
        exact now (hp.symm.trans (List.append_nil _).symm) ht.symm
      | cons x rest =>
        rw [List.cons_append, List.cons.injEq] at ht
        exact ih (ht.1 ▸ hp)

/-! ### What is closed -/

theorem Connection.Open.undisturbed {c : Connection} (ho : c.Open) {link : Link}
    {reply : Except NodeError Unit} : ⟨.send link .disconnect, reply⟩ ∉ c.exchanges := by
  intro h
  have quiet := (ho _ h).2
  cases quiet

theorem Connection.Ended.reply_unique {c : Connection} {reply reply' : Except NodeError Unit}
    (he : c.Ended reply) {link : Link} (h : ⟨.send link .disconnect, reply'⟩ ∈ c.exchanges) :
    reply' = reply := by
  obtain ⟨asked, ha, hc⟩ := he
  rw [hc] at h
  rcases List.mem_append.mp h with h | h
  · have quiet := (ha _ h).2
    cases quiet
  · cases List.mem_singleton.mp h
    rfl

theorem Ledger.imp {settled' : Connection → Prop} {link : Option Link}
    (h : Ledger settled link cs) (hs : ∀ c ∈ cs, settled c → settled' c) :
    Ledger settled' link cs := by
  cases h with
  | idle hc => exact .idle fun c hm => hs c hm (hc c hm)
  | holding ho hc =>
    exact .holding ho fun c hm => hs c (List.mem_cons_of_mem _ hm) (hc c hm)

theorem Life.recorded (h : Life chain turns a) {link : Link} {request : Request}
    {reply : Except NodeError request.Answer}
    (hx : ⟨.send link request, reply⟩ ∈ transcript turns) :
    ∃ c ∈ connections (transcript turns), ⟨.send link request, reply⟩ ∈ c.exchanges := by
  obtain ⟨pre, post, ht⟩ := List.append_of_mem hx
  obtain ⟨c, others, hc, -, -⟩ := (h.addressed ht).latest
  have sent : ⟨c.link, c.exchanges ++ [⟨.send link request, reply⟩]⟩ ∈
      connections (pre ++ [⟨.send link request, reply⟩]) := by
    rw [connections_snoc, hc]
    exact List.mem_cons_self
  obtain ⟨c', hc', sub⟩ := foldl_record_grows (t := post) sent
  refine ⟨c', ?_, sub (by simp)⟩
  rw [ht, List.append_cons, connections_append]
  exact hc'

/-- Each connection that an adapter has been handed is the one that it holds, or has been asked to
end, once and at last. They are all closed but for the held one if no node has failed to end one,
and only then. -/
theorem Life.closed_unless_failed (h : Life chain turns a) :
    Ledger Connection.Released a.link (connections (transcript turns)) ∧
      (Ledger Connection.Closed a.link (connections (transcript turns)) ↔
        ∀ (link : Link) (reply : Except NodeError Unit),
          ⟨.send link .disconnect, reply⟩ ∈ transcript turns → reply = .ok ()) := by
  refine ⟨h.ledger, ?_, ?_⟩
  · intro hl link reply hx
    obtain ⟨c, hc, hm⟩ := h.recorded hx
    rcases hl.mem hc with ⟨ho, -⟩ | hc
    · exact absurd hm ho.undisturbed
    · exact hc.reply_unique hm
  · intro hr
    refine h.ledger.imp fun c hc ⟨reply, asked, ha, he⟩ => ?_
    have sent : ⟨.send c.link .disconnect, reply⟩ ∈ c.exchanges := by simp [he]
    obtain rfl := hr _ _ (exchanges_subset hc sent)
    exact ⟨asked, ha, he⟩

def Turn.connected (chain : Chain) (link : Link) : Turn :=
  ⟨.connect, [⟨.connect chain, .ok link⟩], .ok ()⟩

def Turn.disconnected (link : Link) (reply : Except NodeError Unit) : Turn :=
  ⟨.disconnect, [⟨.send link .disconnect, reply⟩], reply.mapError .ofNode⟩

theorem life_connected_disconnected (chain : Chain) (link : Link)
    (reply : Except NodeError Unit) :
    Life chain [.connected chain link, .disconnected link reply] (.new chain) := by
  have connected : Life chain [.connected chain link] ⟨chain, some link⟩ :=
    .snoc (.connected chain link) .new
      (runs_connect.mpr (@Connecting.connected (.new chain) link rfl))
  exact .snoc (.disconnected link reply) connected
    (runs_disconnect.mpr (@Disconnecting.released ⟨chain, some link⟩ link reply rfl))

theorem closed_unless_failed_turing :
    Ledger Connection.Closed none (connections (transcript
      [.connected .turing ⟨0, fun _ => .ok []⟩, .disconnected ⟨0, fun _ => .ok []⟩ (.ok ())])) := by
  refine (Life.closed_unless_failed (life_connected_disconnected .turing _ _)).2.mpr ?_
  intro link reply h
  rcases List.mem_cons.mp h with h | h
  · cases h
  · cases List.mem_singleton.mp h
    rfl

/-- The node does not end the connection, and the adapter has given it up all the same. -/
theorem unclosed_turing :
    Life .turing
        [.connected .turing ⟨0, fun _ => .ok []⟩,
          .disconnected ⟨0, fun _ => .ok []⟩ (.error (.transport "timeout"))] (.new .turing) ∧
      (Adapter.new .turing).isReady = false ∧
      ∃ c ∈ connections (transcript
          [.connected .turing ⟨0, fun _ => .ok []⟩,
            .disconnected ⟨0, fun _ => .ok []⟩ (.error (.transport "timeout"))]), ¬ c.Closed := by
  refine ⟨life_connected_disconnected _ _ _, rfl, _, List.mem_singleton_self _, ?_⟩
  intro hc
  have same := hc.reply_unique (List.mem_singleton_self _)
  cases same

end Adapter

end XcmTasks

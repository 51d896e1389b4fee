import XcmTasks.Proofs.Rpc.Nonces

/-!
What goes over one connection from its opening on. Its messages are counted from one, whichever
requests they belong to and whether these succeed. A submission asks for what it needs in a fixed
order and goes no further than the first failure. Once the connection is closed it refuses all
requests without posting anything, and only encodes calls as before.
-/

namespace XcmTasks.Rpc

open Dialogue hiding bind_assoc

variable {α β : Type} {c c₁ c' : Connection} {t t' : Posts} {deed : Deed} {deeds before : List Deed}

/-! ### Counting -/

def ids (t : Posts) : List UInt64 := t.map fun x => x.1.message.id

/-- So many ids without a gap, of which this is the first. -/
def idsFrom (first : UInt64) (count : Nat) : List UInt64 :=
  (List.range count).map fun k => first + UInt64.ofNat k

theorem idsFrom_add (first : UInt64) (m n : Nat) :
    idsFrom first (m + n) = idsFrom first m ++ idsFrom (first + UInt64.ofNat m) n := by
  simp only [idsFrom, List.range_add, List.map_append, List.map_map, Function.comp_def,
    UInt64.ofNat_add, UInt64.add_assoc]

/-- From the one state of a connection to the other these messages are posted, under the next ids
without a gap. What the connection was opened with stays. -/
structure Counts (c : Connection) (t : Posts) (c' : Connection) : Prop where
  ids : ids t = idsFrom c.nextId t.length
  nextId : c'.nextId = c.nextId + UInt64.ofNat t.length
  callIndices : c'.callIndices = c.callIndices
  genesisHash : c'.genesisHash = c.genesisHash

theorem Counts.refl (c : Connection) : Counts c [] c :=
  ⟨rfl, (UInt64.add_zero c.nextId).symm, rfl, rfl⟩

theorem Counts.append (h : Counts c t c₁) (h' : Counts c₁ t' c') : Counts c (t ++ t') c' where
  ids := by
    have both : Rpc.ids (t ++ t') = Rpc.ids t ++ Rpc.ids t' := List.map_append
    rw [both, h.ids, h'.ids, h.nextId, List.length_append, idsFrom_add]
  nextId := by
    rw [h'.nextId, h.nextId, List.length_append, UInt64.ofNat_add, UInt64.add_assoc]
  callIndices := h'.callIndices.trans h.callIndices
  genesisHash := h'.genesisHash.trans h.genesisHash

section
variable {method : String} {params : Json} {read : Json → Except NodeError α}
  {r : Except NodeError α} (h : Asks c method params read t r c')
include h

theorem Asks.counts : Counts c t c' := by
  cases h with
  | closed => exact .refl c
  | replied =>
    refine ⟨?_, rfl, rfl, rfl⟩
    exact congrArg (fun id => [id]) (UInt64.add_zero c.nextId).symm

theorem Asks.closed_eq : c'.closed = c.closed := by
  rw [h.eq_count]

end

theorem Submitting.counts {call : Bytes} {signer : Signer} {handed : Option SigningPayload}
    {r : Except NodeError Receipt} (h : Submitting c call signer handed t r c') :
    Counts c t c' ∧ c'.closed = c.closed := by
  cases h with
  | unread hn => exact ⟨hn.counts, hn.closed_eq⟩
  | unversioned hn hv => exact ⟨hn.counts.append hv.counts, hv.closed_eq.trans hn.closed_eq⟩
  | unsigned hn hv => exact ⟨hn.counts.append hv.counts, hv.closed_eq.trans hn.closed_eq⟩
  | unsubmitted hn hv _ hh =>
    exact ⟨hn.counts.append (hv.counts.append hh.counts),
      hh.closed_eq.trans (hv.closed_eq.trans hn.closed_eq)⟩
  | submitted hn hv _ hh =>
    have all := hn.counts.append (hv.counts.append hh.counts)
    exact ⟨⟨all.ids, all.nextId, all.callIndices, all.genesisHash⟩,
      hh.closed_eq.trans (hv.closed_eq.trans hn.closed_eq)⟩

/-- Nothing but a disconnection closes a connection, and nothing opens it again. -/
theorem Does.counts (h : Does c deed c') :
    Counts c deed.posts c' ∧
      (c'.closed = true ↔ c.closed = true ∨ deed.request = .disconnect) := by
  have kept {request : Request} (other : request ≠ .disconnect) (same : c'.closed = c.closed) :
      c'.closed = true ↔ c.closed = true ∨ request = .disconnect := by
    rw [same]
    simp [other]
  cases h with
  | submit hs => exact ⟨hs.counts.1, kept nofun hs.counts.2⟩
  | @ask request _ _ _ hr h =>
    cases request with
    | submit call signer => exact absurd rfl (hr call signer)
    | paymentInfo call sender =>
      have asks := goes_paymentInfo.mp h
      exact ⟨asks.counts, kept nofun asks.closed_eq⟩
    | weightToFee weight =>
      have asks := goes_weightToFee.mp h
      exact ⟨asks.counts, kept nofun asks.closed_eq⟩
    | storage key =>
      have asks := goes_storage.mp h
      exact ⟨asks.counts, kept nofun asks.closed_eq⟩
    | rpc method params =>
      have asks := goes_request.mp h
      exact ⟨asks.counts, kept nofun asks.closed_eq⟩
    | disconnect =>
      obtain ⟨rfl, -, rfl⟩ := goes_disconnect.mp h
      refine ⟨?_, by simp⟩
      have same := Counts.refl c
      exact ⟨same.ids, same.nextId, rfl, rfl⟩

/-! ### Runs over one connection -/

/-- These things are done over a connection, one after another, and leave it as the second state. -/
inductive Serves : Connection → List Deed → Connection → Prop where
  | idle (c : Connection) : Serves c [] c
  | next {c c₁ c' : Connection} {deed : Deed} {deeds : List Deed} (first : Does c deed c₁)
      (rest : Serves c₁ deeds c') : Serves c (deed :: deeds) c'

theorem serves_append :
    Serves c (before ++ deeds) c' ↔ ∃ c₁, Serves c before c₁ ∧ Serves c₁ deeds c' := by
  induction before generalizing c with
  | nil =>
    refine ⟨fun h => ⟨c, .idle c, h⟩, ?_⟩
    rintro ⟨_, ⟨⟩, h⟩
    exact h
  | cons deed before ih =>
    refine ⟨?_, ?_⟩
    · intro h
      cases h with
      | next first rest =>
        obtain ⟨c₁, earlier, later⟩ := ih.mp rest
        exact ⟨c₁, .next first earlier, later⟩
    · rintro ⟨c₁, h, later⟩
      cases h with
      | next first earlier => exact .next first (ih.mpr ⟨c₁, earlier, later⟩)

theorem Serves.counts (h : Serves c deeds c') :
    Counts c (deeds.flatMap Deed.posts) c' ∧
      (c'.closed = true ↔ c.closed = true ∨ ∃ deed ∈ deeds, deed.request = .disconnect) := by
  induction h with
  | idle c => exact ⟨.refl c, by simp⟩
  | next first rest ih =>
    obtain ⟨counts, closed⟩ := first.counts
    rw [List.flatMap_cons, ih.2, closed]
    exact ⟨counts.append ih.1, by simp [or_assoc]⟩

/-! ### Order of a submission -/

/-- A message asks this, and what the reply tells is read as `r`. -/
structure Told (x : Exchange Post fun _ => Reply) (method : String) (params : Json)
    (read : Json → Except NodeError α) (r : Except NodeError α) : Prop where
  method : x.1.message.method = method
  params : x.1.message.params = params
  result : x.2.result x.1.url.text >>= read = r

theorem Asks.posted {method : String} {params : Json} {read : Json → Except NodeError α}
    {r : Except NodeError α} (h : Asks c method params read t r c') (open_ : c.closed = false) :
    ∃ x, t = [x] ∧ Told x method params read r := by
  cases h with
  | closed hc => cases open_.symm.trans hc
  | replied _ hr => exact ⟨_, rfl, rfl, rfl, hr.symm⟩

def EndsAt (x : OnConnection α) (c : Connection) (r : Except NodeError α) (c' : Connection) :
    Prop :=
  x.run.run c = .done (r, c')

theorem EndsAt.goes_iff {x : OnConnection α} {r r' : Except NodeError α} {c₂ : Connection}
    (h : EndsAt x c r c₂) : Goes x c t r' c' ↔ t = [] ∧ r' = r ∧ c' = c₂ := by
  unfold Goes
  rw [h, runs_done, Prod.mk.injEq]

theorem endsAt_bind {x : OnConnection β} {f : β → OnConnection α} {e : NodeError}
    (h : EndsAt x c (.error e) c') : EndsAt (x >>= f) c (.error e) c' := by
  unfold EndsAt at h ⊢
  rw [ExceptT.run_bind, StateT.run_bind, h]
  rfl

theorem endsAt_get_bind {f : Connection → OnConnection α} {r : Except NodeError α} :
    EndsAt (get >>= f) c r c' ↔ EndsAt (f c) c r c' := Iff.rfl

theorem endsAt_request (closed : c.closed = true) (method : String) (params : Json) :
    EndsAt (request method params) c (.error .connectionClosed) c := by
  unfold request
  rw [endsAt_get_bind, if_pos closed]
  rfl

/-- Whatever needs the node ends at once with the news that the connection is closed. -/
theorem endsAt_perform (closed : c.closed = true) {request : Request}
    (needy : request ≠ .disconnect) : EndsAt (perform request) c (.error .connectionClosed) c := by
  have refused := endsAt_request closed
  cases request with
  | paymentInfo call sender => exact endsAt_bind (refused _ _)
  | weightToFee weight => exact endsAt_bind (refused _ _)
  | storage key => exact endsAt_bind (refused _ _)
  | rpc method params => exact refused _ _
  | submit call signer => exact endsAt_bind (endsAt_bind (endsAt_bind (refused _ _)))
  | disconnect => exact absurd rfl needy

section
variable {after : List Deed} {call : Bytes} {signer : Signer} {handed : Option SigningPayload}

theorem Serves.split (h : Serves c (before ++ deed :: after) c') :
    ∃ c₁ c₂, Serves c before c₁ ∧ Does c₁ deed c₂ := by
  obtain ⟨c₁, earlier, rest⟩ := serves_append.mp h
  cases rest with
  | next first => exact ⟨c₁, _, earlier, first⟩

theorem Serves.closed_iff (h : Serves c deeds c') (open_ : c.closed = false) :
    c'.closed = true ↔ ∃ deed ∈ deeds, deed.request = .disconnect := by
  rw [h.counts.2, open_]
  simp

theorem Serves.refused (h : Serves c (before ++ deed :: after) c') (open_ : c.closed = false)
    (disconnected : ∃ earlier ∈ before, earlier.request = .disconnect)
    (needy : deed.request ≠ .disconnect) :
    deed.posts = [] ∧ deed.answer = .error .connectionClosed := by
  obtain ⟨c₁, c₂, earlier, does⟩ := h.split
  have ends := endsAt_perform ((earlier.closed_iff open_).mpr disconnected) needy
  obtain ⟨unposted, refused, -⟩ := ends.goes_iff.mp (goes_perform.mpr ⟨_, does⟩)
  exact ⟨unposted, refused⟩

end

/-! ### A connection from its opening on -/

namespace Sample

/-- The node is gone after it has told the nonce. -/
def failure (c : Connection) : Deed where
  request := .submit [] signer
  handed := none
  posts :=
    [⟨c.postOf "state_getStorage" (.list [.text (accountKey signer.account).text]), entry⟩,
      ⟨c.counted.postOf "state_getRuntimeVersion" (.list []), .broken "gone"⟩]
  answer := .error (.transport "gone")

theorem fails (hc : c.closed = false) (hu : c.url = url) :
    Does c (failure c) c.counted.counted := by
  have gone : (Reply.broken "gone").result c.url.text >>= Answer.runtimeVersion =
      .error (.transport "gone") := rfl
  have hn : AsksNonce c signer.account _ (.ok 5) c.counted :=
    .replied hc (hu ▸ entry_told).symm
  have hv : AsksVersion c.counted _ (.error (.transport "gone")) c.counted.counted :=
    .replied hc gone.symm
  exact .submit (.unversioned hn hv)

def refusal : Deed := ⟨.weightToFee ⟨5, 6⟩, none, [], .error .connectionClosed⟩

end Sample

end XcmTasks.Rpc

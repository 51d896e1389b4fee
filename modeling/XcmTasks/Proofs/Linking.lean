import Mathlib.Data.List.Basic
import XcmTasks.Proofs.Registry

/-!
Connecting adapters one after another, up to the first that fails, and giving up the links of those
that have one. What is asked of the nodes depends on nothing but the chains and the links of the
adapters that are come to, and all other adapters stay as they are.
-/

namespace XcmTasks

open Dialogue

namespace Registry

variable {r r' : Registry} {t : Transcript} {result : Except AdapterError Unit}
variable {position : Nat} {positions : List Nat} {a a' : Adapter} {as : List Adapter}
variable {chain : Chain} {chains : List Chain} {link : Link} {links : List Link}

/-! ### Attempts and releases -/

/-- Attempts to connect these chains, up to the first that fails, and the adapters afterwards. -/
inductive Opening :
    List Chain → Transcript → Except AdapterError Unit → List Adapter → Prop where
  | done : Opening [] [] (.ok ()) []
  | refused (chain : Chain) (chains : List Chain) (e : NodeError) :
      Opening (chain :: chains) [⟨.connect chain, .error e⟩] (.error (.ofNode e))
        (.new chain :: chains.map Adapter.new)
  | opened (chain : Chain) (link : Link) {chains : List Chain} {t : Transcript}
      {result : Except AdapterError Unit} {as : List Adapter} (rest : Opening chains t result as) :
      Opening (chain :: chains) (⟨.connect chain, .ok link⟩ :: t) result (⟨chain, some link⟩ :: as)

/-- Of these adapters those with a link have its end asked for, whatever the reply. -/
inductive Closing : List Adapter → Transcript → Prop where
  | done : Closing [] []
  | unlinked {a : Adapter} {as : List Adapter} {t : Transcript} (hl : a.link = none)
      (rest : Closing as t) : Closing (a :: as) t
  | released {a : Adapter} {link : Link} {as : List Adapter} {t : Transcript}
      (hl : a.link = some link) (reply : Except NodeError Unit) (rest : Closing as t) :
      Closing (a :: as) (⟨.send link .disconnect, reply⟩ :: t)

def attempts (chains : List Chain) (links : List Link) : Transcript :=
  List.zipWith (fun chain link => ⟨.connect chain, .ok link⟩) chains links

def linked (chains : List Chain) (links : List Link) : List Adapter :=
  List.zipWith (fun chain link => ⟨chain, some link⟩) chains links

/-- All attempts succeed, or those up to one that fails. -/
theorem Opening.outcome (h : Opening chains t result as) :
    (∃ links, links.length = chains.length ∧ t = attempts chains links ∧ result = .ok () ∧
        as = linked chains links) ∨
      ∃ before chain after links e, chains = before ++ chain :: after ∧
        links.length = before.length ∧
        t = attempts before links ++ [⟨.connect chain, .error e⟩] ∧
        result = .error (.ofNode e) ∧
        as = linked before links ++ (chain :: after).map Adapter.new := by
  induction h with
  | done => exact .inl ⟨[], rfl, rfl, rfl, rfl⟩
  | refused chain chains e => exact .inr ⟨[], chain, chains, [], e, rfl, rfl, rfl, rfl, rfl⟩
  | opened chain link rest ih =>
    rcases ih with ⟨links, hl, rfl, rfl, rfl⟩ |
      ⟨before, failed, after, links, e, rfl, hl, rfl, rfl, rfl⟩
    · exact .inl ⟨link :: links, congrArg (· + 1) hl, rfl, rfl, rfl⟩
    · exact .inr ⟨chain :: before, failed, after, link :: links, e, rfl, congrArg (· + 1) hl,
        rfl, rfl, rfl⟩

theorem Closing.append {as' : List Adapter} {t' : Transcript} (h : Closing as t)
    (h' : Closing as' t') : Closing (as ++ as') (t ++ t') := by
  induction h with
  | done => exact h'
  | unlinked hl rest ih => exact .unlinked hl ih
  | released hl reply rest ih => exact .released hl reply ih

theorem Closing.asked (h : Closing as t) :
    t.map Sigma.fst = (as.filterMap Adapter.link).map fun link => .send link .disconnect := by
  induction h with
  | done => rfl
  | unlinked hl rest ih => rw [List.filterMap_cons_none hl, ih]
  | released hl reply rest ih => rw [List.filterMap_cons_some hl, List.map_cons, List.map_cons, ih]

theorem links_linked (h : links.length = chains.length) :
    (linked chains links).filterMap Adapter.link = links := by
  induction chains generalizing links with
  | nil =>
    rw [List.length_eq_zero_iff.mp h]
    rfl
  | cons chain chains ih =>
    cases links with
    | nil => cases h
    | cons link links =>
      have rest := ih (Nat.succ.inj h)
      exact congrArg (link :: ·) rest

theorem links_new (chains : List Chain) : (chains.map Adapter.new).filterMap Adapter.link = [] := by
  induction chains with
  | nil => rfl
  | cons chain chains ih => exact ih

/-! ### One adapter -/

def put (r : Registry) (position : Nat) (a : Adapter) : Registry :=
  { r with adapters := r.adapters.set position a }

theorem put_self (ha : r.adapters[position]? = some a) :
    (r.put position a').adapters[position]? = some a' :=
  List.getElem?_set_self (List.getElem?_eq_some_iff.mp ha).1

theorem put_ne {other : Nat} (h : other ≠ position) :
    (r.put position a).adapters[other]? = r.adapters[other]? :=
  List.getElem?_set_ne h.symm

theorem runs_update {f : Adapter → Talk (Except AdapterError Unit × Adapter)}
    (ha : r.adapters[position]? = some a) :
    Runs (r.update position f) t (result, r') ↔
      ∃ a', Runs (f a) t (result, a') ∧
        r' = r.put position a' := by
  unfold update
  simp only [ha, runs_bind]
  refine ⟨?_, ?_⟩
  · rintro ⟨t₁, t₂, ⟨result', a'⟩, hf, h, rfl⟩
    obtain ⟨rfl, h⟩ := runs_pure.mp h
    cases h
    rw [List.append_nil]
    exact ⟨a', hf, rfl⟩
  · rintro ⟨a', hf, rfl⟩
    exact ⟨t, [], (result, a'), hf, runs_pure.mpr ⟨rfl, rfl⟩, (List.append_nil t).symm⟩

theorem closing_of_release (h : Runs (release a) t (result, a')) :
    a' = .new a.chain ∧ Closing [a] t := by
  unfold release at h
  cases hl : a.link with
  | none =>
    have unready : ¬ a.isReady = true := by
      rw [Adapter.isReady, hl]
      exact Bool.false_ne_true
    rw [if_neg unready] at h
    obtain ⟨rfl, h⟩ := runs_pure.mp h
    cases h
    obtain ⟨chain, held⟩ := a
    cases hl
    exact ⟨rfl, .unlinked rfl .done⟩
  | some link =>
    have ready : a.isReady = true := by
      rw [Adapter.isReady, hl]
      rfl
    rw [if_pos ready, runs_bind] at h
    obtain ⟨t₁, t₂, ⟨_, a''⟩, hd, h, rfl⟩ := h
    obtain ⟨rfl, h⟩ := runs_pure.mp h
    cases h
    cases Adapter.runs_disconnect.mp hd with
    | unlinked hn => cases hl.symm.trans hn
    | @released _ reply hl' => exact ⟨rfl, .released hl' reply .done⟩

/-! ### Several adapters -/

def view (r : Registry) (positions : List Nat) : List Adapter :=
  positions.filterMap fun position => r.adapters[position]?

theorem view_cons (ha : r.adapters[position]? = some a) :
    r.view (position :: positions) = a :: r.view positions :=
  List.filterMap_cons_some ha

theorem view_put (h : position ∉ positions) :
    (r.put position a).view positions = r.view positions := by
  apply List.filterMap_congr
  intro other ho
  apply put_ne
  rintro rfl
  exact h ho

theorem view_idle
    (idle : ∀ position ∈ positions, ∃ chain, r.adapters[position]? = some (.new chain)) :
    ((r.view positions).map Adapter.chain).map .new = r.view positions := by
  rw [List.map_map]
  refine Eq.trans (List.map_congr_left ?_) (List.map_id _)
  intro a ha
  obtain ⟨position, hp, hv⟩ := List.mem_filterMap.mp ha
  obtain ⟨chain, hi⟩ := idle position hp
  cases hv.symm.trans hi
  rfl

/-- Connecting comes to the adapters one by one, and leaves the others alone. -/
theorem opening_of_connectEach (hn : positions.Nodup)
    (idle : ∀ position ∈ positions, ∃ chain, r.adapters[position]? = some (.new chain))
    (h : Runs (connectEach positions r) t (result, r')) :
    Opening ((r.view positions).map Adapter.chain) t result (r'.view positions) ∧
      ∀ other ∉ positions, r'.adapters[other]? = r.adapters[other]? := by
  induction positions generalizing r t with
  | nil =>
    obtain ⟨rfl, h⟩ := runs_pure.mp h
    cases h
    exact ⟨.done, fun _ _ => rfl⟩
  | cons position positions ih =>
    obtain ⟨fresh, hn⟩ := List.nodup_cons.mp hn
    obtain ⟨⟨chain, ha⟩, idle⟩ := List.forall_mem_cons.mp idle
    have apart : ∀ other ∈ positions, other ≠ position := by
      rintro other ho rfl
      exact fresh ho
    rw [connectEach, runs_bind] at h
    obtain ⟨t₁, t₂, ⟨result₁, r₁⟩, hu, h, rfl⟩ := h
    obtain ⟨a', hc, rfl⟩ := (runs_update ha).mp hu
    rw [view_cons ha, List.map_cons]
    cases Adapter.runs_connect.mp hc with
    | already hl => cases hl
    | @unreachable e =>
      obtain ⟨rfl, h⟩ := runs_pure.mp h
      cases h
      have refused := Opening.refused chain ((r.view positions).map Adapter.chain) e
      rw [view_idle idle] at refused
      rw [view_cons (put_self ha), view_put fresh]
      refine ⟨refused, ?_⟩
      intro other ho
      exact put_ne (List.ne_of_not_mem_cons ho)
    | @connected link =>
      have idle' : ∀ other ∈ positions, ∃ chain',
          (r.put position ⟨chain, some link⟩).adapters[other]? = some (.new chain') := by
        intro other ho
        rw [put_ne (apart other ho)]
        exact idle other ho
      obtain ⟨rest, beyond⟩ := ih hn idle' h
      rw [view_put fresh] at rest
      have here : r'.adapters[position]? = some ⟨chain, some link⟩ := by
        rw [beyond position fresh, put_self ha]
      rw [view_cons here]
      refine ⟨.opened chain link rest, ?_⟩
      intro other ho
      rw [beyond other (List.not_mem_of_not_mem_cons ho), put_ne (List.ne_of_not_mem_cons ho)]

theorem closing_of_disconnectEach (hn : positions.Nodup)
    (inside : ∀ position ∈ positions, position < r.adapters.length)
    (h : Runs (disconnectEach positions r) t r') :
    Closing (r.view positions) t ∧
      (∀ position ∈ positions,
        r'.adapters[position]? = r.adapters[position]?.map fun a => .new a.chain) ∧
      ∀ other ∉ positions, r'.adapters[other]? = r.adapters[other]? := by
  induction positions generalizing r t with
  | nil =>
    obtain ⟨rfl, h⟩ := runs_pure.mp h
    cases h
    exact ⟨.done, List.forall_mem_nil _, fun _ _ => rfl⟩
  | cons position positions ih =>
    obtain ⟨fresh, hn⟩ := List.nodup_cons.mp hn
    obtain ⟨within, inside⟩ := List.forall_mem_cons.mp inside
    have ha := List.getElem?_eq_getElem within
    rw [disconnectEach, runs_bind] at h
    obtain ⟨t₁, t₂, ⟨result₁, r₁⟩, hu, h, rfl⟩ := h
    obtain ⟨a', hd, rfl⟩ := (runs_update ha).mp hu
    obtain ⟨rfl, closing⟩ := closing_of_release hd
    have inside' : ∀ other ∈ positions,
        other < (r.put position (.new r.adapters[position].chain)).adapters.length := by
      intro other ho
      rw [put, List.length_set]
      exact inside other ho
    obtain ⟨rest, unlinked, beyond⟩ := ih hn inside' h
    rw [view_put fresh] at rest
    rw [view_cons ha]
    refine ⟨closing.append rest, ?_, ?_⟩
    · refine List.forall_mem_cons.mpr ⟨?_, ?_⟩
      · rw [beyond position fresh, put_self ha, ha]
        rfl
      · intro other ho
        have hne : other ≠ position := by
          rintro rfl
          exact fresh ho
        rw [unlinked other ho, put_ne hne]
    · intro other ho
      rw [beyond other (List.not_mem_of_not_mem_cons ho), put_ne (List.ne_of_not_mem_cons ho)]

end Registry

end XcmTasks

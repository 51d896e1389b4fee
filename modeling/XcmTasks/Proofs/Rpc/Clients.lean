import XcmTasks.Rpc.ClientCache

/-!
Clients that are used again. A cache and its clones lead to one place, and through any of them
clients are asked for, dropped when they are too old, and cleared away, one call after another. As
long as no client becomes too old, the clients of two calls are the same exactly if the options are
and nothing was cleared in between.
-/

namespace XcmTasks

/-! ### Calls -/

inductive CacheDeed where
  | get (options : ClientOptions)
  | clear
  | dropExpired
deriving DecidableEq

inductive CacheAnswer where
  | client (result : Except NodeError Client)
  | cleared
  | dropped (count : Nat)

/-- The caches of a program, each at its place. -/
abbrev Caches := Nat → ClientCache

/-- A call through a cache or one of its clones, all of which lead to the same place. -/
structure CacheCall where
  place : Nat
  deed : CacheDeed
  now : Nat

def CacheDeed.perform (make : ClientOptions → Except String Unit) (deed : CacheDeed) (now : Nat)
    (cache : ClientCache) : CacheAnswer × ClientCache :=
  match deed with
  | .get options =>
    let (result, cache) := cache.getIfMade make options now
    (.client result, cache)
  | .clear => (.cleared, cache.clear)
  | .dropExpired =>
    let (count, cache) := cache.dropExpired now
    (.dropped count, cache)

namespace CacheCall

def Clears (call : CacheCall) (place : Nat) : Prop := call.place = place ∧ call.deed = .clear

instance (call : CacheCall) (place : Nat) : Decidable (call.Clears place) :=
  inferInstanceAs (Decidable (_ ∧ _))

def answer (make : ClientOptions → Except String Unit) (call : CacheCall) (caches : Caches) :
    CacheAnswer :=
  (call.deed.perform make call.now (caches call.place)).1

def perform (make : ClientOptions → Except String Unit) (call : CacheCall) (caches : Caches) :
    Caches := fun place =>
  if place = call.place then (call.deed.perform make call.now (caches place)).2 else caches place

/-- The clients that the call finds in its cache are not too old. -/
def Unexpired (call : CacheCall) (caches : Caches) : Prop :=
  ∀ e ∈ (caches call.place).entries, (caches call.place).isExpired call.now e = false

/-- If the call asks for a client, it can be made. -/
def Makeable (make : ClientOptions → Except String Unit) (call : CacheCall) : Prop :=
  ∀ options, call.deed = .get options → make options = .ok ()

end CacheCall

namespace Caches

variable {make : ClientOptions → Except String Unit} {caches : Caches}

def opened (lifetime : Nat → Nat) : Caches := fun place => { lifetime := lifetime place }

def after (make : ClientOptions → Except String Unit) (caches : Caches) (calls : List CacheCall) :
    Caches :=
  calls.foldl (fun caches call => call.perform make caches) caches

/-- Each call can make the client that it asks for, and finds none that is too old. -/
def Steady (make : ClientOptions → Except String Unit) : Caches → List CacheCall → Prop
  | _, [] => True
  | caches, call :: calls =>
    call.Unexpired caches ∧ call.Makeable make ∧ Steady make (call.perform make caches) calls

theorem steady_append {earlier later : List CacheCall} :
    Steady make caches (earlier ++ later) ↔
      Steady make caches earlier ∧ Steady make (caches.after make earlier) later := by
  induction earlier generalizing caches with
  | nil => simp [Steady, after]
  | cons call earlier ih => simp [Steady, after, ih, and_assoc]

end Caches

/-! ### One call -/

namespace ClientCache

variable {make : ClientOptions → Except String Unit} {cache cache' : ClientCache}
variable {options options' : ClientOptions} {client client' : Client} {now : Nat}
variable {deed : CacheDeed} {answer : CacheAnswer}

/-- Clients are numbered as they are made, and none is kept for two options. -/
structure Sound (cache : ClientCache) : Prop where
  numbered : ∀ e ∈ cache.entries, e.client.number < cache.created
  unshared : ∀ e ∈ cache.entries, ∀ e' ∈ cache.entries, e.client = e'.client →
    e.options = e'.options

/-- What a deed does where no client is too old and any can be made. -/
inductive Does (cache : ClientCache) (now : Nat) :
    CacheDeed → CacheAnswer → ClientCache → Prop where
  | found {options : ClientOptions} {client : Client} (h : cache.find? options = some client) :
      Does cache now (.get options) (.client (.ok client)) cache
  | made {options : ClientOptions} (h : cache.find? options = none) :
      Does cache now (.get options) (.client (.ok ⟨cache.created⟩))
        { cache with
          entries := ⟨options, ⟨cache.created⟩, now⟩ :: cache.entries
          created := cache.created + 1 }
  | cleared : Does cache now .clear .cleared { cache with entries := [] }
  | kept : Does cache now .dropExpired (.dropped 0) cache

theorem refresh_unexpired (h : ∀ e ∈ cache.entries, cache.isExpired now e = false) :
    cache.refresh options now = cache := by
  have all : (cache.entries.filter fun e => !(e.options == options && cache.isExpired now e)) =
      cache.entries := by
    rw [List.filter_eq_self]
    intro e he
    simp [h e he]
  unfold refresh
  rw [all]

theorem does_perform (h : ∀ e ∈ cache.entries, cache.isExpired now e = false)
    (hm : ∀ options, deed = .get options → make options = .ok ()) :
    Does cache now deed (deed.perform make now cache).1 (deed.perform make now cache).2 := by
  cases deed with
  | clear => exact .cleared
  | dropExpired =>
    have none : cache.entries.countP (cache.isExpired now) = 0 := by
      rw [List.countP_eq_zero]
      intro e he
      simp [h e he]
    have all : (cache.entries.filter fun e => !cache.isExpired now e) = cache.entries := by
      rw [List.filter_eq_self]
      intro e he
      simp [h e he]
    simp only [CacheDeed.perform, dropExpired, none, all]
    exact .kept
  | get options =>
    simp only [CacheDeed.perform, getIfMade, get, refresh_unexpired h, hm options rfl]
    cases hf : cache.find? options with
    | some client => exact .found hf
    | none =>
      have absent : { cache with created := cache.created + 1 }.find? options = none := hf
      simp only [add, absent]
      exact .made hf

theorem exists_of_find? (h : cache.find? options = some client) :
    ∃ e ∈ cache.entries, e.options = options ∧ e.client = client := by
  obtain ⟨e, he, rfl⟩ := Option.map_eq_some_iff.mp h
  have named := List.find?_some he
  exact ⟨e, List.mem_of_find?_eq_some he, by simpa using named, rfl⟩

/-- The client is no longer kept, and its number is not given again. -/
def Gone (cache : ClientCache) (client : Client) : Prop :=
  client.number < cache.created ∧ ∀ e ∈ cache.entries, e.client ≠ client

theorem Sound.same_options (h : cache.Sound) (hf : cache.find? options = some client)
    (hf' : cache.find? options' = some client) : options = options' := by
  obtain ⟨e, he, rfl, rfl⟩ := exists_of_find? hf
  obtain ⟨e', he', rfl, same⟩ := exists_of_find? hf'
  exact h.unshared e he e' he' same.symm

theorem Sound.number_lt (h : cache.Sound) (hf : cache.find? options = some client) :
    client.number < cache.created := by
  obtain ⟨e, he, -, rfl⟩ := exists_of_find? hf
  exact h.numbered e he

theorem Does.sound (hd : Does cache now deed answer cache') (h : cache.Sound) : cache'.Sound := by
  cases hd with
  | found | kept => exact h
  | cleared => exact ⟨by simp, by simp⟩
  | made absent =>
    -- the new number is above all that were given
    have fresh : ∀ e ∈ cache.entries, (⟨cache.created⟩ : Client) ≠ e.client := by
      intro e he same
      have given := h.numbered e he
      rw [← same] at given
      exact absurd given (Nat.lt_irrefl _)
    refine ⟨?_, ?_⟩
    · intro e he
      rcases List.mem_cons.mp he with rfl | he
      · exact Nat.lt_succ_self _
      · exact Nat.lt_succ_of_lt (h.numbered e he)
    · intro e he e' he' same
      rcases List.mem_cons.mp he with rfl | he <;> rcases List.mem_cons.mp he' with rfl | he'
      · rfl
      · exact absurd same (fresh e' he')
      · exact absurd same.symm (fresh e he)
      · exact h.unshared e he e' he' same

theorem Does.keeps (hd : Does cache now deed answer cache') (hc : deed ≠ .clear)
    (h : cache.find? options = some client) : cache'.find? options = some client := by
  cases hd with
  | found | kept => exact h
  | cleared => exact absurd rfl hc
  | @made other absent =>
    have different : other ≠ options := by
      rintro rfl
      cases absent.symm.trans h
    simpa [find?, different] using h

theorem Does.gone (hd : Does cache now deed answer cache') (h : cache.Gone client) :
    cache'.Gone client := by
  cases hd with
  | found | kept => exact h
  | cleared => exact ⟨h.1, by simp⟩
  | made =>
    refine ⟨Nat.lt_succ_of_lt h.1, ?_⟩
    intro e he
    rcases List.mem_cons.mp he with rfl | he
    · rintro rfl
      exact absurd h.1 (Nat.lt_irrefl _)
    · exact h.2 e he

theorem Does.gone_of_clear (hd : Does cache now .clear answer cache')
    (h : client.number < cache.created) : cache'.Gone client := by
  cases hd with
  | cleared => exact ⟨h, by simp⟩

theorem Does.dropped (hd : Does cache now .dropExpired answer cache') :
    answer = .dropped 0 ∧ cache' = cache := by
  cases hd with
  | kept => exact ⟨rfl, rfl⟩

theorem Does.lifetime_eq (hd : Does cache now deed answer cache') :
    cache'.lifetime = cache.lifetime := by
  cases hd <;> rfl

theorem Does.answers (hd : Does cache now (.get options) answer cache') :
    ∃ client, answer = .client (.ok client) ∧ cache'.find? options = some client := by
  cases hd with
  | found h => exact ⟨_, rfl, h⟩
  | made => exact ⟨_, rfl, by simp [find?]⟩

/-- Who asks for options gets the client that is kept for them, and nobody else does. -/
theorem Does.same_iff (hd : Does cache now (.get options') (.client (.ok client')) cache')
    (h : cache.Sound) (hf : cache.find? options = some client) :
    client = client' ↔ options = options' := by
  obtain ⟨answered, same, kept⟩ := hd.answers
  cases same
  have still := hd.keeps (by simp) hf
  refine ⟨?_, ?_⟩
  · rintro rfl
    exact (hd.sound h).same_options still kept
  · rintro rfl
    exact Option.some.inj (still.symm.trans kept)

theorem Does.ne_of_gone (hd : Does cache now (.get options') (.client (.ok client')) cache')
    (hg : cache.Gone client) : client ≠ client' := by
  obtain ⟨answered, same, kept⟩ := hd.answers
  cases same
  obtain ⟨e, he, -, rfl⟩ := exists_of_find? kept
  exact ((hd.gone hg).2 e he).symm

end ClientCache

/-! ### All calls -/

namespace Caches

open ClientCache

variable {make : ClientOptions → Except String Unit} {caches : Caches} {calls : List CacheCall}
variable {place : Nat} {options options' : ClientOptions} {client : Client}

theorem does_call {call : CacheCall} (hu : call.Unexpired caches) (hm : call.Makeable make) :
    Does (caches call.place) call.now call.deed (call.answer make caches)
      (call.perform make caches call.place) := by
  unfold CacheCall.perform
  rw [if_pos rfl]
  exact does_perform hu hm

theorem perform_other {call : CacheCall} (h : call.place ≠ place) :
    call.perform make caches place = caches place :=
  if_neg (Ne.symm h)

/-- What the deeds at a place keep holds of the cache there, whatever is done at other places. -/
theorem Steady.invariant {P : ClientCache → Prop} (allowed : CacheDeed → Prop)
    (steady : Steady make caches calls)
    (keep : ∀ {cache cache' now deed answer}, allowed deed → Does cache now deed answer cache' →
      P cache → P cache')
    (within : ∀ call ∈ calls, call.place = place → allowed call.deed) (h : P (caches place)) :
    P (caches.after make calls place) := by
  induction calls generalizing caches with
  | nil => exact h
  | cons call calls ih =>
    obtain ⟨hu, hm, steady⟩ := steady
    obtain ⟨first, within⟩ := List.forall_mem_cons.mp within
    apply ih steady within
    by_cases here : call.place = place
    · subst here
      exact keep (first rfl) (does_call hu hm) h
    · rw [perform_other here]
      exact h

theorem Steady.sound (steady : Steady make caches calls) (h : (caches place).Sound) :
    (caches.after make calls place).Sound :=
  steady.invariant (fun _ => True) (fun _ hd => hd.sound) (fun _ _ _ => trivial) h

theorem Steady.gone (steady : Steady make caches calls) (h : (caches place).Gone client) :
    (caches.after make calls place).Gone client :=
  steady.invariant (fun _ => True) (fun _ hd => hd.gone) (fun _ _ _ => trivial) h

theorem Steady.keeps (steady : Steady make caches calls)
    (uncleared : ∀ call ∈ calls, ¬ call.Clears place)
    (h : (caches place).find? options = some client) :
    (caches.after make calls place).find? options = some client :=
  steady.invariant (· ≠ .clear) (fun hc hd => hd.keeps hc)
    (fun call member here clears => uncleared call member ⟨here, clears⟩) h

theorem Steady.gone_of_cleared (steady : Steady make caches calls) (sound : (caches place).Sound)
    (hf : (caches place).find? options = some client)
    (cleared : ∃ call ∈ calls, call.Clears place) :
    (caches.after make calls place).Gone client := by
  induction calls generalizing caches with
  | nil => simp at cleared
  | cons call calls ih =>
    obtain ⟨hu, hm, steady⟩ := steady
    by_cases clears : call.Clears place
    · apply Steady.gone steady
      obtain ⟨rfl, deed⟩ := clears
      have does := does_call hu hm
      rw [deed] at does
      exact does.gone_of_clear (sound.number_lt hf)
    · have one : Steady make caches [call] := ⟨hu, hm, trivial⟩
      apply ih steady (one.sound sound) (one.keeps (by simpa using clears) hf)
      obtain ⟨other, member, clears'⟩ := cleared
      rcases List.mem_cons.mp member with rfl | member
      · exact absurd clears' clears
      · exact ⟨other, member, clears'⟩

theorem sound_opened (lifetime : Nat → Nat) (place : Nat) : (opened lifetime place).Sound :=
  ⟨by simp [opened], by simp [opened]⟩

/-- While no client becomes too old and each one can be made: nothing is dropped for its age, and
two calls through clones of one cache get the same client exactly if they ask for the same options
and the cache was not cleared in between through any clone. So no client serves two chains or two
time limits. -/
theorem client_told_by_options (lifetime : Nat → Nat)
    (steady : Steady make (opened lifetime) calls) :
    (∀ earlier place now later, calls = earlier ++ ⟨place, .dropExpired, now⟩ :: later →
      let caches := (opened lifetime).after make earlier
      CacheCall.answer make ⟨place, .dropExpired, now⟩ caches = .dropped 0 ∧
        CacheCall.perform make ⟨place, .dropExpired, now⟩ caches = caches) ∧
    ∀ earlier between later place options options' now now',
      calls = earlier ++ ⟨place, .get options, now⟩ ::
        (between ++ ⟨place, .get options', now'⟩ :: later) →
      let caches := (opened lifetime).after make earlier
      let caches' := (CacheCall.perform make ⟨place, .get options, now⟩ caches).after make between
      ∃ client client',
        CacheCall.answer make ⟨place, .get options, now⟩ caches = .client (.ok client) ∧
          CacheCall.answer make ⟨place, .get options', now'⟩ caches' = .client (.ok client') ∧
          (client = client' ↔
            options = options' ∧ ∀ call ∈ between, ¬ call.Clears place) ∧
          (options.chainKey ≠ options'.chainKey ∨
            options.requestTimeout ≠ options'.requestTimeout → client ≠ client') := by
  refine ⟨?_, ?_⟩
  · rintro earlier place now later rfl
    intro caches
    obtain ⟨-, hu, hm, -⟩ := steady_append.mp steady
    obtain ⟨answered, unchanged⟩ := (does_call hu hm).dropped
    refine ⟨answered, ?_⟩
    funext other
    by_cases here : other = place
    · subst here
      exact unchanged
    · exact perform_other (Ne.symm here)
  · rintro earlier between later place options options' now now' rfl
    intro caches caches'
    obtain ⟨before, hu, hm, rest⟩ := steady_append.mp steady
    obtain ⟨amid, hu', hm', -⟩ := steady_append.mp rest
    have sound : (caches place).Sound := before.sound (sound_opened lifetime place)
    have first := does_call hu hm
    have second := does_call hu' hm'
    have sound' := amid.sound (first.sound sound)
    obtain ⟨client, answered, kept⟩ := first.answers
    obtain ⟨client', answered', -⟩ := second.answers
    rw [answered'] at second
    have same : client = client' ↔ options = options' ∧ ∀ call ∈ between, ¬ call.Clears place := by
      by_cases cleared : ∃ call ∈ between, call.Clears place
      · have gone := amid.gone_of_cleared (first.sound sound) kept cleared
        obtain ⟨call, member, clears⟩ := cleared
        refine ⟨fun equal => absurd equal (second.ne_of_gone gone), ?_⟩
        rintro ⟨-, uncleared⟩
        exact absurd clears (uncleared call member)
      · have uncleared : ∀ call ∈ between, ¬ call.Clears place :=
          fun call member clears => cleared ⟨call, member, clears⟩
        rw [second.same_iff sound' (amid.keeps uncleared kept)]
        exact (and_iff_left uncleared).symm
    refine ⟨client, client', answered, answered', same, ?_⟩
    intro different equal
    obtain ⟨rfl, -⟩ := same.mp equal
    simp at different

theorem steady_of_young (young : ∀ call ∈ calls, call.now ≤ (caches call.place).lifetime)
    (hm : ∀ call ∈ calls, call.Makeable make) : Steady make caches calls := by
  induction calls generalizing caches with
  | nil => trivial
  | cons call calls ih =>
    obtain ⟨hy, young⟩ := List.forall_mem_cons.mp young
    obtain ⟨hc, hm⟩ := List.forall_mem_cons.mp hm
    have hu : call.Unexpired caches := by
      intro e _
      simp only [isExpired, decide_eq_false_iff_not]
      omega
    refine ⟨hu, hc, ih ?_ hm⟩
    intro other member
    by_cases here : call.place = other.place
    · rw [← here, (does_call hu hc).lifetime_eq, here]
      exact young other member
    · rw [perform_other here]
      exact young other member

namespace Sample

def turing : ClientOptions := { endpoint := "http://127.0.0.1:9946/", chainKey := "turing-local" }

def always : ClientOptions → Except String Unit := fun _ => .ok ()

def start : Caches := opened fun _ => 1800000

def course : List CacheCall :=
  [⟨0, .get turing, 0⟩, ⟨0, .get { turing with requestTimeout := 60000 }, 10⟩, ⟨1, .clear, 20⟩,
    ⟨0, .dropExpired, 30⟩, ⟨0, .get turing, 40⟩, ⟨0, .clear, 50⟩, ⟨0, .get turing, 60⟩]

def answerAt (n : Nat) : Option CacheAnswer :=
  course[n]?.map fun call => call.answer always (start.after always (course.take n))

end Sample

open Sample

/-- Another time limit makes a difference, and so does clearing the cache, but not another one. -/
theorem client_told_by_options_turing :
    Steady always start course ∧ answerAt 3 = some (.dropped 0) ∧
      (∃ client, answerAt 0 = some (.client (.ok client)) ∧
        answerAt 4 = some (.client (.ok client))) ∧
      (∃ client limited, answerAt 0 = some (.client (.ok client)) ∧
        answerAt 1 = some (.client (.ok limited)) ∧ client ≠ limited) ∧
      ∃ client renewed, answerAt 0 = some (.client (.ok client)) ∧
        answerAt 6 = some (.client (.ok renewed)) ∧ client ≠ renewed := by
  have steady : Steady always start course :=
    steady_of_young (by decide) fun _ _ _ _ => rfl
  obtain ⟨dropped, told⟩ := client_told_by_options _ steady
  refine ⟨steady, ?_, ?_, ?_, ?_⟩
  · exact congrArg some (dropped (course.take 3) _ _ _ rfl).1
  · obtain ⟨client, again, first, second, same, -⟩ :=
      told [] ((course.drop 1).take 3) _ _ _ _ _ _ rfl
    obtain rfl := same.mpr ⟨rfl, by decide⟩
    exact ⟨client, congrArg some first, congrArg some second⟩
  · obtain ⟨client, limited, first, second, -, apart⟩ := told [] [] _ _ _ _ _ _ rfl
    exact ⟨client, limited, congrArg some first, congrArg some second, apart (.inr (by decide))⟩
  · obtain ⟨client, renewed, first, second, same, -⟩ :=
      told [] ((course.drop 1).take 5) _ _ _ _ _ _ rfl
    refine ⟨client, renewed, congrArg some first, congrArg some second, ?_⟩
    intro equal
    exact absurd (same.mp equal).2 (by decide)

end Caches

end XcmTasks

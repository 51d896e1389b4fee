import Mathlib.Data.List.Induction
import Mathlib.Data.List.TakeWhile
import XcmTasks.Proofs.Setup

/-!
Which index a call is encoded with. Indices are kept under names, the pallet and the function with a
dot between them, and of several indices under one name the last counts. A name tells its pallet
and its function only if the dot between them is the first one. Entries of settings are split there,
so none of them belongs to a pallet with a dot in it, but a call to such a pallet may have the name
of an entry.
-/

namespace XcmTasks

/-- The last one with the property. -/
def LastOf {α : Type} (p : α → Prop) (as : List α) (a : α) : Prop :=
  ∃ before after, as = before ++ a :: after ∧ p a ∧ ∀ b ∈ after, ¬p b

section
variable {α β : Type} {p q : α → Prop} {as : List α} {a b : α}

theorem lastOf_concat : LastOf p (as ++ [a]) b ↔ p a ∧ b = a ∨ ¬p a ∧ LastOf p as b := by
  unfold LastOf
  constructor
  · rintro ⟨before, after, split, hb, others⟩
    rcases List.eq_nil_or_concat after with rfl | ⟨after, last, rfl⟩
    · obtain ⟨rfl, same⟩ := List.append_inj' split rfl
      obtain rfl : a = b := by simpa using same
      exact .inl ⟨hb, rfl⟩
    · rw [List.concat_eq_append, ← List.cons_append, ← List.append_assoc] at split
      obtain ⟨rfl, same⟩ := List.append_inj' split rfl
      obtain rfl : a = last := by simpa using same
      refine .inr ⟨others a (by simp), before, after, rfl, hb, ?_⟩
      intro c member
      exact others c (by simp [member])
  · rintro (⟨ha, rfl⟩ | ⟨ha, before, after, rfl, hb, others⟩)
    · exact ⟨as, [], rfl, ha, List.forall_mem_nil _⟩
    · refine ⟨before, after ++ [a], by simp, hb, ?_⟩
      intro c member
      rcases List.mem_append.mp member with earlier | last
      · exact others c earlier
      · rw [List.mem_singleton.mp last]
        exact ha

theorem lastOf_congr (same : ∀ a ∈ as, p a ↔ q a) : LastOf p as a ↔ LastOf q as a := by
  unfold LastOf
  refine exists_congr fun before => exists_congr fun after => and_congr_right ?_
  rintro rfl
  rw [same a (by simp)]
  refine and_congr_right fun _ => forall₂_congr fun b member => ?_
  rw [same b (by simp [member])]

/-- In a table that was filled in order, the last entry under a key is found. -/
theorem Table.get?_foldl_insert (k : α → String) (v : α → β) (as : List α) (key : String) :
    (∀ value, (as.foldl (fun table a => table.insert (k a) (v a)) empty).get? key = some value ↔
        ∃ a, LastOf (fun a => k a = key) as a ∧ v a = value) ∧
      ((as.foldl (fun table a => table.insert (k a) (v a)) empty).get? key = none ↔
        ∀ a ∈ as, k a ≠ key) := by
  induction as using List.reverseRecOn with
  | nil =>
    have nothing : (empty : Table β).get? key = none := rfl
    simp [nothing, LastOf]
  | append_singleton as a ih =>
    rw [List.foldl_append, List.foldl_cons, List.foldl_nil, get?_insert]
    simp only [lastOf_concat]
    by_cases here : k a = key
    · simp [here, eq_comm]
    · have elsewhere : key ≠ k a := Ne.symm here
      simp [here, elsewhere, ih.1, ih.2, or_imp, forall_and]

end

/-! ### Names -/

namespace CallIndices

variable {pallet function pallet' function' : String}

/-- The second pallet goes on behind the first one, and has the dot of the name further back. -/
def Shifted (pallet function pallet' function' : String) : Prop :=
  ∃ between, pallet' = pallet ++ "." ++ between ∧ function = between ++ "." ++ function'

theorem toList_key (pallet function : String) :
    (key pallet function).toList = pallet.toList ++ '.' :: function.toList := by
  simp [key]

theorem key_of_shifted (h : Shifted pallet function pallet' function') :
    key pallet function = key pallet' function' := by
  obtain ⟨between, rfl, rfl⟩ := h
  simp [key, String.append_assoc]

/-- The first pallet is followed by the same as the second one, unless it stops at a dot of it. -/
theorem shifted_of_append {cs : List Char} (hp : pallet'.toList = pallet.toList ++ cs)
    (hf : '.' :: function.toList = cs ++ '.' :: function'.toList) :
    pallet = pallet' ∧ function = function' ∨ Shifted pallet function pallet' function' := by
  cases cs with
  | nil =>
    have functions : function.toList = function'.toList := by simpa using hf
    have pallets : pallet'.toList = pallet.toList := by simpa using hp
    exact .inl ⟨(String.toList_inj.mp pallets).symm, String.toList_inj.mp functions⟩
  | cons c between =>
    obtain ⟨rfl, functions⟩ := List.cons.inj hf
    refine .inr ⟨String.ofList between, ?_, ?_⟩
    · apply String.toList_inj.mp
      simp [hp]
    · apply String.toList_inj.mp
      simp [functions]

/-- A name tells the pallet and the function up to the place of the dot. -/
theorem key_eq_iff : key pallet function = key pallet' function' ↔
    (pallet = pallet' ∧ function = function') ∨ Shifted pallet function pallet' function' ∨
      Shifted pallet' function' pallet function := by
  constructor
  · intro h
    have names := congrArg String.toList h
    rw [toList_key, toList_key, List.append_eq_append_iff] at names
    rcases names with ⟨cs, hp, hf⟩ | ⟨cs, hp, hf⟩
    · exact (shifted_of_append hp hf).imp_right .inl
    · rcases shifted_of_append hp hf with ⟨rfl, rfl⟩ | shifted
      · exact .inl ⟨rfl, rfl⟩
      · exact .inr (.inr shifted)
  · rintro (⟨rfl, rfl⟩ | shifted | shifted)
    · rfl
    · exact key_of_shifted shifted
    · exact (key_of_shifted shifted).symm

theorem not_shifted (plain : '.' ∉ pallet'.toList) :
    ¬Shifted pallet function pallet' function' := by
  rintro ⟨between, rfl, -⟩
  simp at plain

theorem key_inj (plain : '.' ∉ pallet.toList) (plain' : '.' ∉ pallet'.toList) :
    key pallet function = key pallet' function' ↔ pallet = pallet' ∧ function = function' := by
  rw [key_eq_iff]
  simp [not_shifted plain, not_shifted plain']

end CallIndices

namespace CallEntry

variable {call pallet function : String}

theorem key_of_names? (h : names? call = some (pallet, function)) :
    CallIndices.key pallet function = call ∧ '.' ∉ pallet.toList := by
  unfold names? at h
  have whole := List.takeWhile_append_dropWhile (p := (· != '.')) (l := call.toList)
  have first := List.head?_dropWhile_not (p := (· != '.')) call.toList
  have plain : '.' ∉ call.toList.takeWhile (· != '.') := by
    intro member
    simpa using List.mem_takeWhile_imp member
  cases rest : call.toList.dropWhile (· != '.') with
  | nil => simp [rest] at h
  | cons c behind =>
    rw [rest] at whole first
    obtain rfl : c = '.' := by simpa using first
    simp only [rest, List.drop_succ_cons, List.drop_zero] at h
    split at h
    case isTrue => cases h
    case isFalse =>
      cases h
      refine ⟨?_, by simpa using plain⟩
      apply String.toList_inj.mp
      rw [CallIndices.toList_key, String.toList_ofList, String.toList_ofList]
      exact whole

end CallEntry

/-! ### Encoding -/

namespace CallIndices

variable {α : Type} {indices : CallIndices} {as : List α} {index : α → CallIndex} {call : Call}

/-- The call is encoded with the index of the last of these that is meant, and not at all if none
is. -/
structure EncodedBy (indices : CallIndices) (as : List α) (index : α → CallIndex) (call : Call)
    (meant : α → Prop) : Prop where
  known : ∀ bytes, indices.encodeCall? call = some bytes ↔
    ∃ a, LastOf meant as a ∧ bytes = (index a).pallet :: (index a).call :: call.args
  unknown : indices.encodeCall? call = none ↔ ∀ a ∈ as, ¬meant a

theorem EncodedBy.congr {meant meant' : α → Prop} (h : EncodedBy indices as index call meant)
    (same : ∀ a ∈ as, meant a ↔ meant' a) : EncodedBy indices as index call meant' where
  known := by
    intro bytes
    rw [h.known]
    simp only [lastOf_congr same]
  unknown := by
    rw [h.unknown]
    exact forall₂_congr fun a member => not_congr (same a member)

/-- The indices that are kept under the names of these. -/
def filled (name : α → String) (index : α → CallIndex) (as : List α) : CallIndices :=
  as.foldl (fun indices a => Table.insert indices (name a) (index a)) .empty

theorem encodedBy_filled (name : α → String) (index : α → CallIndex) (as : List α) (call : Call) :
    EncodedBy (filled name index as) as index call fun a => name a = call.name := by
  obtain ⟨found, missing⟩ := Table.get?_foldl_insert name index as call.name
  have looked : (filled name index as).encodeCall? call =
      (Table.get? (filled name index as) call.name).map
        fun i => i.pallet :: i.call :: call.args := by
    change (Table.get? (filled name index as) call.name >>= _) = _
    cases Table.get? (filled name index as) call.name <;> rfl
  refine ⟨?_, ?_⟩
  · intro bytes
    rw [looked, Option.map_eq_some_iff]
    constructor
    · rintro ⟨i, here, rfl⟩
      obtain ⟨a, last, rfl⟩ := (found i).mp here
      exact ⟨a, last, rfl⟩
    · rintro ⟨a, last, rfl⟩
      exact ⟨index a, (found _).mpr ⟨a, last, rfl⟩, rfl⟩
  · rw [looked, Option.map_eq_none_iff]
    exact missing

structure Insertion where
  pallet : String
  function : String
  index : CallIndex

def Insertion.name (i : Insertion) : String := key i.pallet i.function

def ofInsertions (insertions : List Insertion) : CallIndices :=
  insertions.foldl (fun indices i => CallIndices.insert indices i.pallet i.function i.index) .empty

theorem encodedBy_ofInsertions (insertions : List Insertion) (call : Call) :
    EncodedBy (ofInsertions insertions) insertions Insertion.index call fun i =>
      i.name = call.name :=
  encodedBy_filled Insertion.name Insertion.index insertions call

end CallIndices

/-! ### Settings -/

namespace ChainSettings

open CallIndices

variable {s : ChainSettings} {environment : Environment} {key : String} {chain : Chain}
  {indices : CallIndices}

/-- Each entry is put in under its text, as it is split and put together again. -/
theorem filled_of_indices (h : s.indices key = .ok indices) :
    indices = filled CallEntry.call CallEntry.index s.callIndices ∧
      ∀ e ∈ s.callIndices, ∃ names, CallEntry.names? e.call = some names := by
  unfold ChainSettings.indices at h
  unfold filled
  generalize s.callIndices = entries at h ⊢
  generalize Table.empty = start at h ⊢
  induction entries generalizing start with
  | nil =>
    cases h
    exact ⟨rfl, List.forall_mem_nil _⟩
  | cons e entries ih =>
    rw [List.foldlM_cons] at h
    obtain ⟨next, here, h⟩ := bind_eq_ok h
    split at here
    case h_1 pallet function names =>
      cases here
      obtain ⟨rfl, others⟩ := ih _ h
      refine ⟨?_, List.forall_mem_cons.mpr ⟨⟨_, names⟩, others⟩⟩
      rw [List.foldl_cons, ← (CallEntry.key_of_names? names).1]
      rfl
    case h_2 => cases here

theorem indices_of_toChain (h : s.toChain environment key = .ok chain) :
    s.indices key = .ok chain.callIndices := by
  have makes := s.makes_toChain environment key
  rw [h] at makes
  cases makes with
  | made _ _ hi => exact hi

/-- A call to a pallet without a dot has the name of an entry just if the entry is split into its
pallet and function. -/
theorem split_iff {e : CallEntry} {names : String × String} {call : Call}
    (split : CallEntry.names? e.call = some names) (plain : '.' ∉ call.pallet.toList) :
    e.call = call.name ↔ CallEntry.names? e.call = some (call.pallet, call.function) := by
  obtain ⟨pallet, function⟩ := names
  obtain ⟨whole, plain'⟩ := CallEntry.key_of_names? split
  have same : e.call = call.name ↔ pallet = call.pallet ∧ function = call.function := by
    rw [← whole]
    exact key_inj plain' plain
  rw [same, split, Option.some_inj, Prod.mk.injEq]

end ChainSettings

namespace CallIndices

/-- The last index under the name of a call counts, for all calls. Two calls have one name just if
they are the same or the dot in it has another place, so that the name stands for the pallet and the
function while no pallet has a dot in it. Of the entries of accepted settings the last one counts
whose text is the name of the call; that is the last one that is split into the pallet and the
function of the call, if there is no dot in the pallet. -/
theorem encoded_by_last_name :
    (∀ insertions call, EncodedBy (ofInsertions insertions) insertions Insertion.index call fun i =>
      i.name = call.name) ∧
    (∀ pallet function pallet' function', key pallet function = key pallet' function' ↔
      (pallet = pallet' ∧ function = function') ∨ Shifted pallet function pallet' function' ∨
        Shifted pallet' function' pallet function) ∧
    (∀ insertions call, (∀ i ∈ insertions, '.' ∉ i.pallet.toList) → '.' ∉ call.pallet.toList →
      EncodedBy (ofInsertions insertions) insertions Insertion.index call fun i =>
        i.pallet = call.pallet ∧ i.function = call.function) ∧
    ∀ (s : ChainSettings) (environment : Environment) (key : String) (chain : Chain),
      s.toChain environment key = .ok chain → ∀ call,
        EncodedBy chain.callIndices s.callIndices CallEntry.index call (fun e =>
          e.call = call.name) ∧
        ('.' ∉ call.pallet.toList →
          EncodedBy chain.callIndices s.callIndices CallEntry.index call fun e =>
            CallEntry.names? e.call = some (call.pallet, call.function)) := by
  refine ⟨encodedBy_ofInsertions, fun _ _ _ _ => key_eq_iff, ?_, ?_⟩
  · intro insertions call plain plain'
    refine (encodedBy_ofInsertions insertions call).congr ?_
    intro i member
    exact key_inj (plain i member) plain'
  · intro s environment key chain made call
    obtain ⟨filled, split⟩ :=
      ChainSettings.filled_of_indices (ChainSettings.indices_of_toChain made)
    have named := encodedBy_filled CallEntry.call CallEntry.index s.callIndices call
    rw [← filled] at named
    refine ⟨named, ?_⟩
    intro plain
    refine named.congr ?_
    intro e member
    obtain ⟨names, here⟩ := split e member
    exact ChainSettings.split_iff here plain

namespace Sample

open Setup.Sample (entry surroundings)

def dotted : List Insertion := [⟨"A", "b.c", ⟨5, 5⟩⟩]

def shifted : Call := ⟨"A.b", "c", [7]⟩

def plain : Call := ⟨"A", "b.c", [7]⟩

def settings : ChainSettings :=
  { entry .turing with callIndices := [⟨"A.b.c", ⟨4, 4⟩⟩, ⟨"B.c", ⟨6, 6⟩⟩, ⟨"A.b.c", ⟨5, 5⟩⟩] }

theorem made : ∃ chain, settings.toChain surroundings "turing" = .ok chain ∧
    chain.callIndices.encodeCall? shifted = some [5, 5, 7] := by
  have makes : ((settings.toChain surroundings "turing").toOption.any fun chain =>
      chain.callIndices.encodeCall? shifted == some [5, 5, 7]) = true := by
    decide +kernel
  obtain ⟨chain, found, encoded⟩ := (Option.any_eq_true _ _).mp makes
  exact ⟨chain, eq_ok_of_toOption found, by simpa using encoded⟩

end Sample

/-- A function with a dot is taken for one of a pallet with a dot, so the pallet and the function of
a call do not tell its index: neither after insertions nor in accepted settings. -/
theorem shifted_dot_encoded :
    ¬EncodedBy (ofInsertions Sample.dotted) Sample.dotted Insertion.index Sample.shifted
        (fun i => i.pallet = Sample.shifted.pallet ∧ i.function = Sample.shifted.function) ∧
      ∃ chain, Sample.settings.toChain Setup.Sample.surroundings "turing" = .ok chain ∧
        ¬EncodedBy chain.callIndices Sample.settings.callIndices CallEntry.index Sample.shifted
          fun e => CallEntry.names? e.call =
            some (Sample.shifted.pallet, Sample.shifted.function) := by
  refine ⟨?_, ?_⟩
  · intro h
    have missing := h.unknown.mpr (by decide)
    have found : (ofInsertions Sample.dotted).encodeCall? Sample.shifted = some [5, 5, 7] := by
      decide +kernel
    cases missing.symm.trans found
  · obtain ⟨chain, made, found⟩ := Sample.made
    refine ⟨chain, made, ?_⟩
    intro h
    have missing := h.unknown.mpr (by decide +kernel)
    cases missing.symm.trans found

/-- Of two entries under one name the last one counts. -/
theorem encoded_by_last_name_turing :
    '.' ∉ Sample.plain.pallet.toList ∧
      (ofInsertions Sample.dotted).encodeCall? Sample.plain = some [5, 5, 7] ∧
      ∃ chain, Sample.settings.toChain Setup.Sample.surroundings "turing" = .ok chain ∧
        chain.callIndices.encodeCall? Sample.plain = some [5, 5, 7] := by
  obtain ⟨-, -, inserted, configured⟩ := encoded_by_last_name
  obtain ⟨chain, made, -⟩ := Sample.made
  have undotted : '.' ∉ Sample.plain.pallet.toList := by decide
  have encoded := inserted Sample.dotted Sample.plain (by decide) undotted
  have encoded' := (configured _ _ _ _ made Sample.plain).2 undotted
  refine ⟨undotted, (encoded.known _).mpr ?_, chain, made, (encoded'.known _).mpr ?_⟩
  · exact ⟨⟨"A", "b.c", ⟨5, 5⟩⟩, ⟨[], [], rfl, ⟨rfl, rfl⟩, List.forall_mem_nil _⟩, rfl⟩
  · have split : CallEntry.names? "A.b.c" = some ("A", "b.c") := by decide +kernel
    have last : LastOf (fun e : CallEntry => CallEntry.names? e.call = some ("A", "b.c"))
        Sample.settings.callIndices ⟨"A.b.c", ⟨5, 5⟩⟩ :=
      ⟨[⟨"A.b.c", ⟨4, 4⟩⟩, ⟨"B.c", ⟨6, 6⟩⟩], [], rfl, split, List.forall_mem_nil _⟩
    exact ⟨_, last, rfl⟩

end CallIndices

end XcmTasks

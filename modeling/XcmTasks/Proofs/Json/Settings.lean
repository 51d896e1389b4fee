import XcmTasks.Config.Load
import XcmTasks.Proofs.Json.Values

/-!
Chains and settings that are read from a text. Their compact JSON text is a normal form: it is read
as the same value, so that reading and writing it once more changes nothing. The chains of settings
may be written in any order.
-/

namespace XcmTasks

open Document
open Json (Plain)

variable {d : Nat}

/-! ### Parts of settings -/

instance : Settled LogFormat (d + 1) where
  settles := by
    refine settles_variantOf (by decide) ?_
    simp only [List.forall_mem_cons]
    exact ⟨rfl, rfl, rfl, List.forall_mem_nil _⟩

instance : Settled LoggingSettings (d + 2) where
  settles := settles_recordOf (by decide) <|
    Members.settles_of (by intros; rfl) |>.required |>.required |>.withDefault (.bool false) rfl

instance : Settled (Option String) d := settled_option fun _ h => by cases h

instance : Settled SchedulerSettings (d + 1) where
  settles := settles_recordOf (by decide) <|
    Members.settles_of (by intros; rfl) |>.withDefault .null rfl
      |>.withDefault (.number "30000".toList) rfl

instance : Settled CallEntry (d + 2) where
  settles := settles_recordOf (by decide) <|
    Members.settles_of (by intros; rfl) |>.required |>.required

theorem steady_configValue (v : ConfigValue) : Steady (d + 1) v := by
  cases v with
  | env name =>
    refine ⟨.object ?_, rfl⟩
    simp only [List.forall_mem_cons]
    exact ⟨.text _, .text _, List.forall_mem_nil _⟩
  | plain value =>
    refine ⟨.object ?_, rfl⟩
    simp only [List.forall_mem_cons]
    exact ⟨.text _, .text _, List.forall_mem_nil _⟩

instance : Settled ConfigValue (d + 1) := settled_of_steady steady_configValue

instance : Settled ChainSettings (d + 9) where
  settles := settles_recordOf (by decide) <|
    Members.settles_of (by intros; rfl) |>.required |>.required
      |>.withDefault (.text (some "")) rfl |>.required |>.withDefault .null rfl
      |>.withDefault (.text (some "id32")) rfl |>.required |>.withDefault (.list [] true) rfl
      |>.required |>.withDefault .null rfl |>.withDefault (.list [] true) rfl
      |>.withDefault (.bool true) rfl

/-! ### Settings -/

def Settings.jsonOver (s : Settings) (entries : List (String × ChainSettings)) : Json :=
  .object
    [("chains", entriesJson entries), ("logging", toJson s.logging), ("sdk", toJson s.scheduler)]

theorem Settings.jsonOver_entries (s : Settings) : s.jsonOver s.chains.entries = toJson s := rfl

theorem settles_settings {order : Table ChainSettings → List (String × ChainSettings)}
    (ho : ∀ chains, (order chains).Perm chains.entries) :
    Settles (read (α := Settings)) (d + 11) fun j s => j = s.jsonOver (order s.chains) :=
  settles_recordOf (by decide) <|
    Members.settles_of (by rintro _ chains rfl logging scheduler; rfl)
      |>.one (settles_table ho) (by rintro _ ⟨⟩; exact ⟨.exact, .object [] true, rfl⟩)
      |>.withDefault (.list [.text (some "info"), .text (some "pretty")] true) rfl
      |>.withDefault (.object [] true) rfl

/-! ### Texts -/

theorem read_of_readText {α : Type} [FromDocument α] {text : String} {a : α}
    (h : readText text = .ok a) : read .exact (ofText text).1 = .ok a := by
  unfold readText at h
  generalize ofText text = tree at h ⊢
  obtain ⟨document, ends⟩ := tree
  dsimp only at h
  obtain ⟨a', ha, h⟩ := bind_eq_ok h
  split at h
  case isTrue =>
    cases h
    exact ha
  case isFalse => cases h

theorem read_of_load? {file : Option (Config.FileFormat × String)} {environment : Environment}
    {s : Settings} (h : Settings.load? file environment = some s) :
    ∃ document, read .lenient document = .ok s := by
  unfold Settings.load? at h
  cases file with
  | none => exact ⟨_, eq_ok_of_toOption h⟩
  | some file =>
    obtain ⟨members, -, h⟩ := Option.bind_eq_some_iff.mp h
    exact ⟨_, eq_ok_of_toOption h⟩

/-- Settings that are read, in either manner, are read back from their compact text, in whatever
order it has their chains. -/
theorem Settings.readText_jsonOver {manner : Manner} {document : Document} {s : Settings}
    (h : read manner document = .ok s) {entries : List (String × ChainSettings)}
    (hp : entries.Perm s.chains.entries) : readText (s.jsonOver entries).render = .ok s := by
  -- only the order of the chains of these settings matters
  let order (chains : Table ChainSettings) : List (String × ChainSettings) :=
    if chains = s.chains then entries else chains.entries
  have ho : ∀ chains, (order chains).Perm chains.entries := by
    intro chains
    by_cases same : chains = s.chains
    · subst same
      simpa [order] using hp
    · simp [order, same]
  obtain ⟨j, plain, rfl, back⟩ := settles_settings (d := 116) ho h
  have own : order s.chains = entries := if_pos rfl
  rw [own] at plain back
  rw [readText_render plain]
  exact back

/-- Compact texts are normal forms of the texts that chains and settings are read from. -/
theorem jsonText_normal_form :
    (∀ (text : String) (chain : Chain), readText text = .ok chain →
        readText (jsonText chain) = .ok chain) ∧
      ∀ s : Settings, ((∃ text, readText text = .ok s) ∨
          ∃ file environment, Settings.load? file environment = some s) →
        readText (jsonText s) = .ok s ∧
          ∀ entries : List (String × ChainSettings), entries.Perm s.chains.entries →
            readText (s.jsonOver entries).render = .ok s := by
  refine ⟨?_, ?_⟩
  · intro text chain h
    have steady : Steady (118 + 9) chain := steady_of_read (read_of_readText h)
    exact steady.readText
  · intro s h
    obtain ⟨manner, document, hr⟩ : ∃ manner document, read manner document = .ok s := by
      rcases h with ⟨text, h⟩ | ⟨file, environment, h⟩
      · exact ⟨.exact, _, read_of_readText h⟩
      · obtain ⟨document, hr⟩ := read_of_load? h
        exact ⟨.lenient, document, hr⟩
    have own := Settings.readText_jsonOver hr (List.Perm.refl _)
    rw [Settings.jsonOver_entries] at own
    exact ⟨own, fun _ hp => Settings.readText_jsonOver hr hp⟩

def Chain.Sample.text : String :=
  "[\"t\", \"oak\", \"t\", \"\", \"ws:\\u002f/n\", null, \"id32\", " ++
    "[\"T\", 10, [0, [\x7b\"general_key\": \"00Ff\"\x7d]], true], [], [1, 0]]"

def Settings.Sample.text : String :=
  "[\x7b\"t\": [\"oak\", \"t\", \"\", \"env:NODE\", null, \"id32\", [\"T\", 10, [0]], [], " ++
    "\x7b\"refTime\": 1, \"proof_size\": 0\x7d]\x7d]"

/-- A chain and settings from texts that are not compact ones. -/
theorem jsonText_normal_form_samples :
    (∃ chain : Chain, readText Chain.Sample.text = .ok chain ∧ jsonText chain ≠ Chain.Sample.text ∧
        readText (jsonText chain) = .ok chain) ∧
      ∃ s : Settings, readText Settings.Sample.text = .ok s ∧ s.chains.keys = ["t"] ∧
        readText (jsonText s) = .ok s := by
  refine ⟨?_, ?_⟩
  · have reads : ((readText Chain.Sample.text).toOption.any fun chain : Chain =>
        jsonText chain != Chain.Sample.text) = true := by
      decide +kernel
    obtain ⟨chain, found, other⟩ := (Option.any_eq_true _ _).mp reads
    have h := eq_ok_of_toOption found
    exact ⟨chain, h, by simpa using other, jsonText_normal_form.1 _ chain h⟩
  · have reads : ((readText Settings.Sample.text).toOption.any fun s : Settings =>
        s.chains.keys == ["t"]) = true := by
      decide +kernel
    obtain ⟨s, found, keys⟩ := (Option.any_eq_true _ _).mp reads
    have h := eq_ok_of_toOption found
    exact ⟨s, h, by simpa using keys, (jsonText_normal_form.2 s (.inl ⟨_, h⟩)).1⟩

end XcmTasks

import Mathlib.Data.List.Sort
import XcmTasks.Table

/-!
Entries of tables are found under their keys. As the keys ascend, each has one entry.
-/

namespace XcmTasks.Table

variable {α : Type} {table : Table α} {key k : String} {value : α}

theorem keys_ascending (table : Table α) : table.keys.Pairwise (· < ·) :=
  List.pairwise_map.mpr table.ascending

theorem lookup_cons (k key : String) (value : α) (entries : List (String × α)) :
    ((key, value) :: entries).lookup k = if k = key then some value else entries.lookup k := by
  rw [List.lookup_cons]
  by_cases h : k = key
  · simp [h]
  · simp [h, beq_eq_false_iff_ne.mpr h]

theorem lookup_eq_some_iff {entries : List (String × α)} (h : entries.Pairwise Precedes) :
    entries.lookup key = some value ↔ (key, value) ∈ entries := by
  induction entries with
  | nil => simp
  | cons first entries ih =>
    obtain ⟨k, v⟩ := first
    obtain ⟨behind, rest⟩ := List.pairwise_cons.mp h
    rw [lookup_cons]
    by_cases hk : key = k
    · have alone : (k, value) ∉ entries := fun hm => String.lt_irrefl k (behind _ hm)
      simp [hk, alone, eq_comm]
    · simp [hk, ih rest]

theorem get?_eq_some_iff : table.get? key = some value ↔ (key, value) ∈ table.entries :=
  lookup_eq_some_iff table.ascending

theorem mem_keys_iff : key ∈ table.keys ↔ ∃ value, table.get? key = some value := by
  simp [keys, get?_eq_some_iff]

theorem contains_iff : table.contains key = true ↔ key ∈ table.keys := by
  rw [mem_keys_iff]
  exact Option.isSome_iff_exists

theorem lookup_insertEntry (entries : List (String × α)) :
    (insertEntry key value entries).lookup k =
      if k = key then some value else entries.lookup k := by
  induction entries with
  | nil => rw [insertEntry, lookup_cons]
  | cons first entries ih =>
    obtain ⟨k', v⟩ := first
    rw [insertEntry, lookup_cons]
    split
    case isTrue => rw [lookup_cons, lookup_cons]
    case isFalse =>
      split
      case isTrue heq =>
        rw [lookup_cons, heq]
        split <;> rfl
      case isFalse hne =>
        rw [lookup_cons, ih]
        by_cases hk : k = k'
        · rw [if_pos hk, if_pos hk, if_neg (hk ▸ Ne.symm hne)]
        · rw [if_neg hk, if_neg hk]

/-- An entry that is put in is found under its key, and the others are found as before. -/
theorem get?_insert (table : Table α) (key : String) (value : α) (k : String) :
    (table.insert key value).get? k = if k = key then some value else table.get? k :=
  lookup_insertEntry table.entries

/-! ### Tables of entries -/

theorem ext {other : Table α} (h : table.entries = other.entries) : table = other := by
  cases table
  cases other
  cases h
  rfl

theorem mem_insert {e : String × α} :
    e ∈ (table.insert key value).entries ↔ e = (key, value) ∨ e ∈ table.entries ∧ e.1 ≠ key := by
  obtain ⟨k, v⟩ := e
  rw [← get?_eq_some_iff, get?_insert, ← get?_eq_some_iff]
  by_cases hk : k = key
  · simp [hk, eq_comm]
  · simp [hk]

theorem of_mem_foldl_insert {e : String × α} {entries : List (String × α)}
    (h : e ∈ (entries.foldl (fun table e => table.insert e.1 e.2) table).entries) :
    e ∈ table.entries ∨ e ∈ entries := by
  induction entries generalizing table with
  | nil => exact .inl h
  | cons first entries ih =>
    rcases ih h with hm | hm
    · rcases mem_insert.mp hm with rfl | ⟨hm, -⟩
      · exact .inr List.mem_cons_self
      · exact .inl hm
    · exact .inr (List.mem_cons_of_mem _ hm)

theorem of_mem_ofList {e : String × α} {entries : List (String × α)}
    (h : e ∈ (ofList entries).entries) : e ∈ entries :=
  (of_mem_foldl_insert h).resolve_left List.not_mem_nil

/-- No entry is lost if the keys differ from each other and from those that are there. -/
theorem mem_foldl_insert {e : String × α} {entries : List (String × α)}
    (hn : (entries.map Prod.fst).Nodup) (fresh : ∀ e ∈ entries, e.1 ∉ table.keys) :
    e ∈ (entries.foldl (fun table e => table.insert e.1 e.2) table).entries ↔
      e ∈ table.entries ∨ e ∈ entries := by
  induction entries generalizing table with
  | nil => simp
  | cons first entries ih =>
    obtain ⟨alone, hn⟩ := List.nodup_cons.mp hn
    obtain ⟨new, fresh⟩ := List.forall_mem_cons.mp fresh
    have fresh' : ∀ e ∈ entries, e.1 ∉ (table.insert first.1 first.2).keys := by
      intro e he hk
      obtain ⟨e', he', hk⟩ := List.mem_map.mp hk
      rcases mem_insert.mp he' with rfl | ⟨he', -⟩
      · exact alone (List.mem_map.mpr ⟨e, he, hk.symm⟩)
      · exact fresh e he (List.mem_map.mpr ⟨e', he', hk⟩)
    have kept : e ∈ table.entries → e.1 ≠ first.1 := by
      intro he hk
      exact new (List.mem_map.mpr ⟨e, he, hk⟩)
    rw [List.foldl_cons, ih hn fresh', mem_insert, List.mem_cons]
    refine ⟨?_, ?_⟩
    · rintro ((rfl | ⟨he, -⟩) | he)
      · exact .inr (.inl rfl)
      · exact .inl he
      · exact .inr (.inr he)
    · rintro (he | rfl | he)
      · exact .inl (.inr ⟨he, kept he⟩)
      · exact .inl (.inl rfl)
      · exact .inr he

/-- In whatever order the entries of a table come, they make the table. -/
theorem ofList_of_perm {entries : List (String × α)} (h : entries.Perm table.entries) :
    ofList entries = table := by
  have distinct : (table.entries.map Prod.fst).Nodup := by
    refine table.keys_ascending.imp ?_
    rintro a b less rfl
    exact String.lt_irrefl a less
  have hn : (entries.map Prod.fst).Nodup := (h.map Prod.fst).nodup_iff.mpr distinct
  apply ext
  refine List.Pairwise.eq_of_mem_iff (ofList entries).ascending table.ascending ?_
  intro e
  have all : e ∈ (ofList entries).entries ↔ e ∈ (empty : Table α).entries ∨ e ∈ entries :=
    mem_foldl_insert hn fun _ _ => List.not_mem_nil
  rw [← h.mem_iff]
  exact all.trans (or_iff_right List.not_mem_nil)

end XcmTasks.Table

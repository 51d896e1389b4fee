/-! Values under texts, kept in ascending order of the texts. -/

namespace XcmTasks

abbrev Precedes {α : Type} (a b : String × α) : Prop := a.1 < b.1

structure Table (α : Type) where
  entries : List (String × α)
  ascending : entries.Pairwise Precedes
deriving DecidableEq, Repr

namespace Table

variable {α : Type}

def empty : Table α := ⟨[], .nil⟩

instance : Inhabited (Table α) := ⟨empty⟩

/-- Puts an entry at its place, instead of one with the same key. -/
def insertEntry (key : String) (value : α) : List (String × α) → List (String × α)
  | [] => [(key, value)]
  | (k, v) :: entries =>
    if key < k then (key, value) :: (k, v) :: entries
    else if key = k then (key, value) :: entries
    else (k, v) :: insertEntry key value entries

theorem of_mem_insertEntry {key : String} {value : α} {e : String × α}
    {entries : List (String × α)} (h : e ∈ insertEntry key value entries) :
    e = (key, value) ∨ e ∈ entries := by
  induction entries with
  | nil => exact .inl (List.mem_singleton.mp h)
  | cons first entries ih =>
    unfold insertEntry at h
    split at h
    · exact List.mem_cons.mp h
    · split at h
      · exact (List.mem_cons.mp h).imp_right (List.mem_cons_of_mem _)
      · rcases List.mem_cons.mp h with rfl | h
        · exact .inr List.mem_cons_self
        · exact (ih h).imp_right (List.mem_cons_of_mem _)

theorem ascending_insertEntry (key : String) (value : α) {entries : List (String × α)}
    (h : entries.Pairwise Precedes) : (insertEntry key value entries).Pairwise Precedes := by
  induction entries with
  | nil => exact List.pairwise_singleton _ _
  | cons first entries ih =>
    obtain ⟨k, v⟩ := first
    obtain ⟨behind, rest⟩ := List.pairwise_cons.mp h
    unfold insertEntry
    split
    case isTrue hlt =>
      refine List.pairwise_cons.mpr ⟨?_, h⟩
      intro e he
      rcases List.mem_cons.mp he with rfl | he
      · exact hlt
      · exact String.lt_trans hlt (behind e he)
    case isFalse hle =>
      split
      case isTrue heq =>
        subst heq
        exact List.pairwise_cons.mpr ⟨behind, rest⟩
      case isFalse hne =>
        refine List.pairwise_cons.mpr ⟨?_, ih rest⟩
        intro e he
        rcases of_mem_insertEntry he with rfl | he
        · exact Std.lt_of_le_of_ne (String.not_lt.mp hle) (Ne.symm hne)
        · exact behind e he

def insert (table : Table α) (key : String) (value : α) : Table α :=
  ⟨insertEntry key value table.entries, ascending_insertEntry key value table.ascending⟩

/-- The table with these entries; of equal keys the last one counts. -/
def ofList (entries : List (String × α)) : Table α :=
  entries.foldl (fun table e => table.insert e.1 e.2) empty

def get? (table : Table α) (key : String) : Option α := table.entries.lookup key

def contains (table : Table α) (key : String) : Bool := (table.get? key).isSome

def keys (table : Table α) : List String := table.entries.map Prod.fst

def size (table : Table α) : Nat := table.entries.length

def isEmpty (table : Table α) : Bool := table.entries.isEmpty

end Table

end XcmTasks

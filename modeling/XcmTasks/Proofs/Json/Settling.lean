import XcmTasks.Proofs.Json.Text
import XcmTasks.Proofs.Results
import XcmTasks.Proofs.Table

/-!
Readers that agree with a way of writing: whatever they make of a document, in either manner, is
written as a JSON value that is read back, exactly, as what it was. Each way of putting readers
together keeps this. What a value is written as is told by a relation, which the parts of a value
pass on to its whole.
-/

namespace XcmTasks

open Document
open Json (Plain)

variable {α β : Type} {d : Nat} {manner : Manner} {document : Document}

/-- What is read is written as some JSON value in the relation, and read back from it. -/
def Document.Settles (item : Manner → Document → Reading α) (d : Nat) (W : Json → α → Prop) :
    Prop :=
  ∀ ⦃manner : Manner⦄ ⦃document : Document⦄ ⦃a : α⦄, item manner document = .ok a →
    ∃ j, Plain d j ∧ W j a ∧ item .exact j.tree = .ok a

/-- Whatever is read of the type is read back from its JSON form. -/
class Settled (α : Type) [ToJson α] [FromDocument α] (d : Nat) : Prop where
  settles : Document.Settles (read (α := α)) d fun j a => j = toJson a

namespace Document

variable {item : Manner → Document → Reading α} {W W' : Json → α → Prop}

theorem Settles.mono (h : Settles item d W) (hw : ∀ j a, W j a → W' j a) :
    Settles item d W' := by
  intro manner document a ha
  obtain ⟨j, plain, hj, back⟩ := h ha
  exact ⟨j, plain, hw j a hj, back⟩

theorem Settles.map {W : Json → β → Prop} {f : α → β} (h : Settles item d fun j a => W j (f a)) :
    Settles (fun m doc => f <$> item m doc) d W := by
  intro manner document b hb
  obtain ⟨a, ha, rfl⟩ := map_eq_ok hb
  obtain ⟨j, plain, hj, back⟩ := h ha
  refine ⟨j, plain, hj, ?_⟩
  change f <$> item .exact j.tree = _
  rw [back]
  rfl

theorem settles_map_read [ToJson α] [FromDocument α] [Settled α d] {W : Json → β → Prop}
    {f : α → β} (h : ∀ a, W (toJson a) (f a)) : Settles (fun m doc => f <$> read m doc) d W := by
  refine Settles.map (Settles.mono Settled.settles ?_)
  rintro j a rfl
  exact h a

/-! ### Lists and objects -/

theorem itemTrees_eq (items : List Json) : Json.itemTrees items = items.map Json.tree := by
  induction items with
  | nil => rfl
  | cons item items ih => rw [Json.itemTrees, ih, List.map_cons]

theorem memberTrees_eq (members : List (String × Json)) :
    Json.memberTrees members = members.map fun e => (some e.1, e.2.tree) := by
  induction members with
  | nil => rfl
  | cons e members ih => rw [Json.memberTrees, ih, List.map_cons]

end Document

section
variable [ToJson α] [FromDocument α]

/-- The value has a JSON form of that depth, and it is read back from it. -/
structure Steady (d : Nat) (a : α) : Prop where
  plain : Plain d (toJson a)
  back : read .exact (toJson a).tree = .ok a

theorem steady_of_read [Settled α d] {a : α} (h : read manner document = .ok a) : Steady d a := by
  obtain ⟨j, plain, rfl, back⟩ := Settled.settles (d := d) h
  exact ⟨plain, back⟩

theorem settled_of_steady (h : ∀ a : α, Steady d a) : Settled α d where
  settles := fun _ _ a _ => ⟨toJson a, (h a).plain, rfl, (h a).back⟩

theorem Steady.readText {a : α} (h : Steady maxDepth a) : readText (jsonText a) = .ok a := by
  rw [jsonText, readText_render h.plain]
  exact h.back

/-! ### Lists, options and tables -/

theorem plain_list {as : List α} (h : ∀ a ∈ as, Steady d a) : Plain (d + 1) (toJson as) := by
  refine .list ?_
  intro j hj
  obtain ⟨a, ha, rfl⟩ := List.mem_map.mp hj
  exact (h a ha).plain

theorem listOf_toJson {as : List α} (h : ∀ a ∈ as, Steady d a) :
    listOf read .exact (toJson as).tree = .ok as := by
  have items := mapM_map_eq_ok (f := read .exact) (g := fun a => (toJson a).tree)
    fun a ha => (h a ha).back
  change listOf read .exact (.list (Json.itemTrees (as.map toJson)) true) = _
  rw [itemTrees_eq, List.map_map]
  unfold listOf
  change (List.mapM (read .exact) (as.map fun a => (toJson a).tree) >>= _) = _
  rw [items]
  rfl

instance [Settled α d] : Settled (List α) (d + 1) where
  settles := by
    intro manner document as h
    have all : ∀ a ∈ as, Steady d a := by
      change listOf read manner document = .ok as at h
      unfold listOf at h
      split at h
      case h_1 items closed =>
        obtain ⟨values, hv, h⟩ := bind_eq_ok h
        split at h
        case isTrue =>
          cases h
          intro a ha
          obtain ⟨item, -, hi⟩ := mapM_eq_ok hv a ha
          exact steady_of_read hi
        case isFalse => cases h
      case h_2 => cases h
    exact ⟨toJson as, plain_list all, rfl, listOf_toJson all⟩

/-- Where `null` stands for no value of the type, a value is steady as one that may be missing. -/
theorem steady_some {a : α} (h : Steady d a) (hn : read .exact .null ≠ .ok a) :
    Steady d (some a) := by
  refine ⟨h.plain, ?_⟩
  have back := h.back
  change Document.optional read .exact (toJson a).tree = _
  unfold Document.optional
  split
  case h_1 heq =>
    rw [heq] at back
    exact absurd back hn
  case h_2 =>
    rw [back]
    rfl

theorem steady_none : Steady d (none : Option α) := ⟨.null, rfl⟩

theorem settled_option [Settled α d] (h : ∀ a : α, read .exact .null ≠ .ok a) :
    Settled (Option α) d where
  settles := by
    intro manner document o ho
    have steady : Steady d o := by
      change Document.optional read manner document = .ok o at ho
      unfold Document.optional at ho
      split at ho
      case h_1 =>
        cases ho
        exact steady_none
      case h_2 =>
        obtain ⟨a, ha, rfl⟩ := map_eq_ok ho
        exact steady_some (steady_of_read ha) (h a)
    exact ⟨_, steady.plain, rfl, steady.back⟩

def entriesJson (entries : List (String × α)) : Json :=
  .object (entries.map fun e => (e.1, toJson e.2))

def entryOf {α : Type} [FromDocument α] (manner : Manner) (member : Option String × Document) :
    Reading (String × α) :=
  match member.1 with
  | some key => do return (key, ← read manner member.2)
  | none => .error .malformed

theorem plain_entriesJson {entries : List (String × α)} (h : ∀ e ∈ entries, Steady d e.2) :
    Plain (d + 1) (entriesJson entries) := by
  refine .object ?_
  intro j hj
  obtain ⟨e, he, rfl⟩ := List.mem_map.mp hj
  exact (h e he).plain

theorem entryOf_member {e : String × α} (h : Steady d e.2) :
    entryOf .exact (some e.1, (toJson e.2).tree) = .ok e := by
  change (read .exact (toJson e.2).tree >>= fun a => pure (e.1, a)) = _
  rw [h.back]
  rfl

theorem entriesOf_entriesJson {entries : List (String × α)} (h : ∀ e ∈ entries, Steady d e.2) :
    entriesOf read .exact (entriesJson entries).tree = .ok entries := by
  have all : (entries.map fun e => (some e.1, (toJson e.2).tree)).mapM (entryOf .exact) =
      .ok entries :=
    mapM_map_eq_ok fun e he => entryOf_member (h e he)
  change entriesOf read .exact (.object (Json.memberTrees _) true) = _
  rw [memberTrees_eq, List.map_map]
  change ((entries.map fun e => (some e.1, (toJson e.2).tree)).mapM (entryOf .exact) >>=
    fun values : List (String × α) => pure values) = _
  rw [all]
  rfl

omit [ToJson α] in
theorem of_entriesOf {entries : List (String × α)}
    (h : entriesOf read manner document = .ok entries) :
    ∀ e ∈ entries, ∃ document, read manner document = .ok e.2 := by
  unfold entriesOf at h
  split at h
  case h_1 members closed =>
    obtain ⟨values, hv, h⟩ := bind_eq_ok h
    split at h
    case isTrue =>
      cases h
      intro e he
      obtain ⟨⟨key, document⟩, -, hm⟩ := mapM_eq_ok hv e he
      cases key with
      | none => cases hm
      | some key =>
        obtain ⟨a, ha, hm⟩ := bind_eq_ok hm
        cases hm
        exact ⟨document, ha⟩
    case isFalse => cases h
  case h_2 => cases h

/-- The order in which the entries of a table are written does not matter. -/
theorem settles_table [Settled α d] {order : Table α → List (String × α)}
    (ho : ∀ table, (order table).Perm table.entries) :
    Settles (read (α := Table α)) (d + 1) fun j table => j = entriesJson (order table) := by
  intro manner document table h
  obtain ⟨entries, he, rfl⟩ := map_eq_ok h
  have all : ∀ e ∈ order (Table.ofList entries), Steady d e.2 := by
    intro e hm
    obtain ⟨document, hd⟩ := of_entriesOf he e (Table.of_mem_ofList ((ho _).mem_iff.mp hm))
    exact steady_of_read hd
  refine ⟨_, plain_entriesJson all, rfl, ?_⟩
  change Table.ofList <$> entriesOf read .exact (entriesJson _).tree = _
  rw [entriesOf_entriesJson all]
  exact congrArg Except.ok (Table.ofList_of_perm (ho _))

instance [Settled α d] : Settled (Table α) (d + 1) where
  settles := settles_table fun _ => List.Perm.refl _

end

end XcmTasks

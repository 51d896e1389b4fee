import XcmTasks.Proofs.Weight

/-!
The laws of weights. Their comparison is the order by components, under which some weights are
incomparable. A checked operation has a result exactly if both components of the exact one fit into
words. Since further terms and factors only make a component larger, what does not fit at some step
does not fit in the end either, and the laws of numbers hold of sums and multiples that may fail.
-/

namespace XcmTasks.Weight

variable {a b c : Weight} {n : UInt64}

/-! ### Order -/

/-- How two values compare of which it is known whether each is at most the other. -/
def ordering? (atMost atLeast : Bool) : Option Ordering :=
  match atMost, atLeast with
  | true, true => some .eq
  | true, false => some .lt
  | false, true => some .gt
  | false, false => none

theorem compare_words (x y : UInt64) :
    (x.toNat < y.toNat ∧ compare x y = .lt) ∨ (x.toNat = y.toNat ∧ compare x y = .eq) ∨
      (y.toNat < x.toNat ∧ compare x y = .gt) := by
  have numbers : compare x y = compare x.toNat y.toNat := by
    simp only [compare, compareOfLessAndEq, UInt64.lt_iff_toNat_lt, ← UInt64.toNat_inj]
  rw [numbers, Nat.compare_eq_lt, Nat.compare_eq_eq, Nat.compare_eq_gt]
  omega

/-- The comparison goes by the components, one after the other, and comes to the same as looking
twice whether all of them are at most the other weight's. -/
theorem compare?_eq (a b : Weight) : a.compare? b = ordering? (a.allLte b) (b.allLte a) := by
  have decided (a b : Weight) : a.allLte b = decide (a.refTime.toNat ≤ b.refTime.toNat ∧
      a.proofSize.toNat ≤ b.proofSize.toNat) := by
    rw [Bool.eq_iff_iff, decide_eq_true_iff, allLte_iff]
  unfold compare?
  rw [decided a b, decided b a]
  rcases compare_words a.refTime b.refTime with ⟨hr, ordered⟩ | ⟨hr, ordered⟩ | ⟨hr, ordered⟩
  all_goals
    rcases compare_words a.proofSize b.proofSize with ⟨hp, ordered'⟩ | ⟨hp, ordered'⟩ |
      ⟨hp, ordered'⟩
    all_goals
      rw [ordered, ordered']
      grind [ordering?]

instance : LE Weight := ⟨fun a b => a.compare? b = some .lt ∨ a.compare? b = some .eq⟩

instance : LT Weight := ⟨fun a b => a.compare? b = some .lt⟩

theorem le_iff : a ≤ b ↔ a.allLte b = true := by
  change a.compare? b = some .lt ∨ a.compare? b = some .eq ↔ _
  rw [compare?_eq]
  cases a.allLte b <;> cases b.allLte a <;> decide

theorem not_le_iff : ¬ a ≤ b ↔ a.anyGt b = true := by
  rw [le_iff]
  unfold anyGt
  cases a.allLte b <;> decide

theorem compare?_eq_none : a.compare? b = none ↔ ¬ a ≤ b ∧ ¬ b ≤ a := by
  rw [le_iff, le_iff, compare?_eq]
  cases a.allLte b <;> cases b.allLte a <;> decide

theorem compare?_swap (a b : Weight) : b.compare? a = (a.compare? b).map Ordering.swap := by
  rw [compare?_eq, compare?_eq]
  cases a.allLte b <;> cases b.allLte a <;> rfl

theorem lt_iff : a < b ↔ a ≤ b ∧ ¬ b ≤ a := by
  rw [le_iff, le_iff]
  change a.compare? b = some .lt ↔ _
  rw [compare?_eq]
  cases a.allLte b <;> cases b.allLte a <;> decide

theorem le_refl (a : Weight) : a ≤ a :=
  le_iff.mpr (allLte_iff.mpr ⟨Nat.le_refl _, Nat.le_refl _⟩)

theorem le_antisymm (h : a ≤ b) (h' : b ≤ a) : a = b := by
  obtain ⟨hr, hp⟩ := allLte_iff.mp (le_iff.mp h)
  obtain ⟨hr', hp'⟩ := allLte_iff.mp (le_iff.mp h')
  exact ext (Nat.le_antisymm hr hr') (Nat.le_antisymm hp hp')

theorem le_trans (h : a ≤ b) (h' : b ≤ c) : a ≤ c := by
  obtain ⟨hr, hp⟩ := allLte_iff.mp (le_iff.mp h)
  obtain ⟨hr', hp'⟩ := allLte_iff.mp (le_iff.mp h')
  exact le_iff.mpr (allLte_iff.mpr ⟨Nat.le_trans hr hr', Nat.le_trans hp hp'⟩)

theorem lt_trans (h : a < b) (h' : b < c) : a < c := by
  rw [lt_iff] at h h' ⊢
  exact ⟨le_trans h.1 h'.1, fun back => h.2 (le_trans h'.1 back)⟩

theorem compare?_eq_eq : a.compare? b = some .eq ↔ a = b := by
  refine ⟨?_, ?_⟩
  · intro h
    have back : b.compare? a = some .eq := by
      rw [compare?_swap a b, h]
      rfl
    exact le_antisymm (.inr h) (.inr back)
  · rintro rfl
    rw [compare?_eq, le_iff.mp a.le_refl]
    rfl

/-! ### Sums and multiples -/

def Representable (refTime proofSize : Nat) : Prop :=
  refTime < UInt64.size ∧ proofSize < UInt64.size

instance (refTime proofSize : Nat) : Decidable (Representable refTime proofSize) :=
  inferInstanceAs (Decidable (_ ∧ _))

/-- The weight with these components, if they fit. -/
def ofParts? (refTime proofSize : Nat) : Option Weight := do
  let refTime ← word64? refTime
  let proofSize ← word64? proofSize
  return ⟨refTime, proofSize⟩

variable {refTime proofSize : Nat}

theorem ofParts?_of_representable (h : Representable refTime proofSize) :
    ofParts? refTime proofSize = some ⟨clamp64 refTime, clamp64 proofSize⟩ := by
  have largest {k : Nat} (hk : k < UInt64.size) : min k (UInt64.size - 1) = k := by omega
  unfold ofParts? word64? clamp64
  rw [if_pos h.1, if_pos h.2, largest h.1, largest h.2]
  rfl

theorem ofParts?_of_not_representable (h : ¬ Representable refTime proofSize) :
    ofParts? refTime proofSize = none := by
  unfold ofParts? word64?
  by_cases hr : refTime < UInt64.size
  · have hp : ¬ proofSize < UInt64.size := fun hp => h ⟨hr, hp⟩
    rw [if_pos hr, if_neg hp]
    rfl
  · rw [if_neg hr]
    rfl

/-- Going on from a sum or a multiple is going on from its exact components, as long as they only
become larger: those that do not fit do not fit later either. -/
theorem ofParts?_bind {next : Weight → Option Weight} {onRefTime onProofSize : Nat → Nat}
    (hn : ∀ w, next w = ofParts? (onRefTime w.refTime.toNat) (onProofSize w.proofSize.toNat))
    (hr : ∀ k, k ≤ onRefTime k) (hp : ∀ k, k ≤ onProofSize k) :
    (ofParts? refTime proofSize).bind next =
      ofParts? (onRefTime refTime) (onProofSize proofSize) := by
  by_cases h : Representable refTime proofSize
  · have components : (clamp64 refTime).toNat = refTime ∧
        (clamp64 proofSize).toNat = proofSize := by
      rw [toNat_clamp64, toNat_clamp64]
      exact ⟨Nat.min_eq_left (Nat.le_pred_of_lt h.1), Nat.min_eq_left (Nat.le_pred_of_lt h.2)⟩
    rw [ofParts?_of_representable h, Option.bind_some, hn, components.1, components.2]
  · have larger : ¬ Representable (onRefTime refTime) (onProofSize proofSize) := fun fits =>
      h ⟨Nat.lt_of_le_of_lt (hr _) fits.1, Nat.lt_of_le_of_lt (hp _) fits.2⟩
    rw [ofParts?_of_not_representable h, ofParts?_of_not_representable larger]
    rfl

theorem checkedAdd_eq_ofParts? (a b : Weight) : a.checkedAdd b =
    ofParts? (a.refTime.toNat + b.refTime.toNat) (a.proofSize.toNat + b.proofSize.toNat) := rfl

theorem checkedMul_eq_ofParts? (a : Weight) (n : UInt64) : a.checkedMul n =
    ofParts? (a.refTime.toNat * n.toNat) (a.proofSize.toNat * n.toNat) := rfl

theorem ofParts?_bind_add (w : Weight) : (ofParts? refTime proofSize).bind (·.checkedAdd w) =
    ofParts? (refTime + w.refTime.toNat) (proofSize + w.proofSize.toNat) :=
  ofParts?_bind (fun x => checkedAdd_eq_ofParts? x w) (fun _ => Nat.le_add_right _ _)
    (fun _ => Nat.le_add_right _ _)

theorem ofParts?_bind_addTo (w : Weight) : (ofParts? refTime proofSize).bind w.checkedAdd =
    ofParts? (w.refTime.toNat + refTime) (w.proofSize.toNat + proofSize) :=
  ofParts?_bind (checkedAdd_eq_ofParts? w) (fun _ => Nat.le_add_left _ _)
    (fun _ => Nat.le_add_left _ _)

/-- A factor of zero would make a weight small again that does not fit. -/
theorem ofParts?_bind_mul (h : 1 ≤ n.toNat) :
    (ofParts? refTime proofSize).bind (·.checkedMul n) =
      ofParts? (refTime * n.toNat) (proofSize * n.toNat) :=
  ofParts?_bind (fun x => checkedMul_eq_ofParts? x n) (fun k => Nat.le_mul_of_pos_right k h)
    (fun k => Nat.le_mul_of_pos_right k h)

theorem checkedAdd_eq (a b : Weight) : a.checkedAdd b =
    if Representable (a.refTime.toNat + b.refTime.toNat) (a.proofSize.toNat + b.proofSize.toNat)
    then some (a + b) else none := by
  rw [checkedAdd_eq_ofParts?]
  split
  case isTrue h => exact ofParts?_of_representable h
  case isFalse h => exact ofParts?_of_not_representable h

theorem checkedMul_eq (a : Weight) (n : UInt64) : a.checkedMul n =
    if Representable (a.refTime.toNat * n.toNat) (a.proofSize.toNat * n.toNat)
    then some (a * n) else none := by
  rw [checkedMul_eq_ofParts?]
  split
  case isTrue h => exact ofParts?_of_representable h
  case isFalse h => exact ofParts?_of_not_representable h

theorem checkedAdd_comm (a b : Weight) : a.checkedAdd b = b.checkedAdd a := by
  rw [checkedAdd_eq_ofParts?, checkedAdd_eq_ofParts?, Nat.add_comm, Nat.add_comm a.proofSize.toNat]

theorem checkedAdd_assoc (a b c : Weight) :
    (a.checkedAdd b).bind (·.checkedAdd c) = (b.checkedAdd c).bind a.checkedAdd := by
  rw [checkedAdd_eq_ofParts? a b, ofParts?_bind_add, checkedAdd_eq_ofParts? b c,
    ofParts?_bind_addTo, Nat.add_assoc, Nat.add_assoc]

theorem checkedMul_distrib (a b : Weight) (h : 1 ≤ n.toNat) :
    (a.checkedAdd b).bind (·.checkedMul n) =
      (a.checkedMul n).bind fun x => (b.checkedMul n).bind x.checkedAdd := by
  have onMultiples (x : Weight) : (b.checkedMul n).bind x.checkedAdd =
      ofParts? (x.refTime.toNat + b.refTime.toNat * n.toNat)
        (x.proofSize.toNat + b.proofSize.toNat * n.toNat) := by
    rw [checkedMul_eq_ofParts? b n, ofParts?_bind_addTo]
  rw [checkedAdd_eq_ofParts? a b, ofParts?_bind_mul h, checkedMul_eq_ofParts? a n,
    ofParts?_bind onMultiples (fun _ => Nat.le_add_right _ _) (fun _ => Nat.le_add_right _ _),
    Nat.add_mul, Nat.add_mul]

def addedTimes (w : Weight) : Nat → Option Weight
  | 0 => some zero
  | k + 1 => (w.addedTimes k).bind (·.checkedAdd w)

theorem addedTimes_eq (w : Weight) (k : Nat) :
    w.addedTimes k = ofParts? (w.refTime.toNat * k) (w.proofSize.toNat * k) := by
  induction k with
  | zero =>
    rw [Nat.mul_zero, Nat.mul_zero]
    rfl
  | succ k ih =>
    rw [addedTimes, ih, ofParts?_bind_add, Nat.mul_succ, Nat.mul_succ]

/-- The comparison is a partial order, the one by components. A checked operation comes to what the
saturating one does if the exact result fits, and otherwise to nothing; checked sums may be put in
any order and be taken together in any way, and a multiple is a sum of so many. -/
theorem ordered_and_exact (a b c : Weight) (n : UInt64) :
    (a ≤ a ∧ (a ≤ b ∧ b ≤ a ↔ a = b) ∧ (a ≤ b → b ≤ c → a ≤ c) ∧ (a < b → b < c → a < c) ∧
        (a.compare? b = some .eq ↔ a = b) ∧
        b.compare? a = (a.compare? b).map Ordering.swap) ∧
      ((a ≤ b ↔ a.allLte b = true) ∧ (¬ a ≤ b ↔ a.anyGt b = true) ∧
        (a.compare? b = none ↔ ¬ a.allLte b = true ∧ ¬ b.allLte a = true)) ∧
      (a.checkedAdd b =
          if Representable (a.refTime.toNat + b.refTime.toNat)
            (a.proofSize.toNat + b.proofSize.toNat)
          then some (a + b) else none) ∧
      (a.checkedMul n =
          if Representable (a.refTime.toNat * n.toNat) (a.proofSize.toNat * n.toNat)
          then some (a * n) else none) ∧
      a.checkedAdd b = b.checkedAdd a ∧
      (a.checkedAdd b).bind (·.checkedAdd c) = (b.checkedAdd c).bind a.checkedAdd ∧
      (1 ≤ n.toNat → (a.checkedAdd b).bind (·.checkedMul n) =
        (a.checkedMul n).bind fun x => (b.checkedMul n).bind x.checkedAdd) ∧
      a.checkedMul n = a.addedTimes n.toNat := by
  have sameOf : a = b → a ≤ b ∧ b ≤ a := fun same => same ▸ ⟨le_refl a, le_refl a⟩
  refine ⟨⟨le_refl a, ⟨fun both => le_antisymm both.1 both.2, sameOf⟩, le_trans, lt_trans,
      compare?_eq_eq, compare?_swap a b⟩,
    ⟨le_iff, not_le_iff, ?_⟩, checkedAdd_eq a b, checkedMul_eq a n, checkedAdd_comm a b,
    checkedAdd_assoc a b c, checkedMul_distrib a b, (addedTimes_eq a n.toNat).symm⟩
  rw [compare?_eq_none, le_iff, le_iff]

/-- Three weights one above the other, and a factor by which the sum of two of them still fits; and
a factor by which no sum with the largest word does. -/
theorem ordered_and_exact_small :
    ((⟨1, 1⟩ : Weight) ≤ ⟨1, 2⟩ ∧ (⟨1, 2⟩ : Weight) ≤ ⟨2, 2⟩ ∧ (⟨1, 1⟩ : Weight) ≤ ⟨2, 2⟩) ∧
      ((⟨1, 1⟩ : Weight) < ⟨1, 2⟩ ∧ (⟨1, 2⟩ : Weight) < ⟨2, 2⟩ ∧ (⟨1, 1⟩ : Weight) < ⟨2, 2⟩) ∧
      (⟨1, 1⟩ : Weight) ≤ ⟨1, 1⟩ ∧ 1 ≤ (3 : UInt64).toNat ∧
      ((⟨1, 1⟩ : Weight).checkedMul 3).bind
          (fun x => ((⟨1, 2⟩ : Weight).checkedMul 3).bind x.checkedAdd) = some ⟨6, 9⟩ ∧
      ((⟨1, 1⟩ : Weight).checkedMul 3).bind
          (fun x => ((⟨0xffffffffffffffff, 2⟩ : Weight).checkedMul 3).bind x.checkedAdd) =
        none := by
  have first : (⟨1, 1⟩ : Weight) < ⟨1, 2⟩ := rfl
  have second : (⟨1, 2⟩ : Weight) < ⟨2, 2⟩ := rfl
  have counts : 1 ≤ (3 : UInt64).toNat := by decide
  obtain ⟨⟨own, -, chain, strictChain, -⟩, -, -, -, -, -, distrib, -⟩ :=
    ordered_and_exact ⟨1, 1⟩ ⟨1, 2⟩ ⟨2, 2⟩ 3
  obtain ⟨-, -, -, -, -, -, distrib', -⟩ :=
    ordered_and_exact ⟨1, 1⟩ ⟨0xffffffffffffffff, 2⟩ ⟨2, 2⟩ 3
  refine ⟨⟨.inl first, .inl second, chain (.inl first) (.inl second)⟩,
    ⟨first, second, strictChain first second⟩, own, counts, ?_, ?_⟩
  · rw [← distrib counts]
    decide
  · rw [← distrib' counts]
    decide

end XcmTasks.Weight

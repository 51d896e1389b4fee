import XcmTasks.Adapter.Basic

/-! Checked arithmetic of weights: a result that is there is exact in both components. -/

namespace XcmTasks

theorem word64?_eq_some {n : Nat} {w : UInt64} : word64? n = some w ↔ w.toNat = n := by
  unfold word64?
  by_cases h : n < UInt64.size
  · rw [if_pos h, Option.some_inj]
    refine ⟨?_, ?_⟩
    · rintro rfl
      exact UInt64.toNat_ofNat_of_lt' h
    · rintro rfl
      exact UInt64.ofNat_toNat
  · rw [if_neg h]
    refine ⟨?_, ?_⟩
    · intro hw
      cases hw
    · rintro rfl
      exact absurd w.toNat_lt h

theorem toNat_word64 {n : Nat} (h : n < UInt64.size) : (UInt64.ofNat n).toNat = n :=
  UInt64.toNat_ofNat_of_lt' h

theorem toNat_clamp64 (n : Nat) : (clamp64 n).toNat = min n (UInt64.size - 1) := by
  have positive : 0 < UInt64.size := by decide
  unfold clamp64
  exact toNat_word64 (by omega)

namespace Weight

variable {a b c : Weight} {scalar : UInt64}

theorem ext (hr : a.refTime.toNat = b.refTime.toNat) (hp : a.proofSize.toNat = b.proofSize.toNat) :
    a = b := by
  obtain ⟨refTime, proofSize⟩ := a
  exact congr (congrArg Weight.mk (UInt64.toNat_inj.mp hr)) (UInt64.toNat_inj.mp hp)

theorem allLte_iff :
    a.allLte b = true ↔
      a.refTime.toNat ≤ b.refTime.toNat ∧ a.proofSize.toNat ≤ b.proofSize.toNat := by
  simp [allLte, UInt64.le_iff_toNat_le]

theorem checkedAdd_eq_some :
    a.checkedAdd b = some c ↔
      c.refTime.toNat = a.refTime.toNat + b.refTime.toNat ∧
        c.proofSize.toNat = a.proofSize.toNat + b.proofSize.toNat := by
  unfold checkedAdd
  simp only [Option.bind_eq_bind, Option.bind_eq_some_iff, word64?_eq_some, Option.pure_def,
    Option.some_inj]
  refine ⟨?_, ?_⟩
  · rintro ⟨refTime, hr, proofSize, hp, rfl⟩
    exact ⟨hr, hp⟩
  · rintro ⟨hr, hp⟩
    exact ⟨_, hr, _, hp, rfl⟩

theorem checkedMul_eq_some :
    a.checkedMul scalar = some c ↔
      c.refTime.toNat = a.refTime.toNat * scalar.toNat ∧
        c.proofSize.toNat = a.proofSize.toNat * scalar.toNat := by
  unfold checkedMul
  simp only [Option.bind_eq_bind, Option.bind_eq_some_iff, word64?_eq_some, Option.pure_def,
    Option.some_inj]
  refine ⟨?_, ?_⟩
  · rintro ⟨refTime, hr, proofSize, hp, rfl⟩
    exact ⟨hr, hp⟩
  · rintro ⟨hr, hp⟩
    exact ⟨_, hr, _, hp, rfl⟩

end Weight

/-- The overall weight is the call's with so many times the weight of an instruction. -/
theorem Adapter.overallWeight?_exact {a : Adapter} {weight overall : Weight} {instructions : UInt64}
    (h : a.overallWeight? weight instructions = some overall) :
    overall.refTime.toNat = weight.refTime.toNat +
        instructions.toNat * a.chain.instructionWeight.refTime.toNat ∧
      overall.proofSize.toNat = weight.proofSize.toNat +
        instructions.toNat * a.chain.instructionWeight.proofSize.toNat := by
  unfold overallWeight? at h
  rw [Option.bind_eq_bind, Option.bind_eq_some_iff] at h
  obtain ⟨around, hm, ha⟩ := h
  obtain ⟨hmr, hmp⟩ := Weight.checkedMul_eq_some.mp hm
  obtain ⟨har, hap⟩ := Weight.checkedAdd_eq_some.mp ha
  rw [har, hap, hmr, hmp, Nat.mul_comm instructions.toNat, Nat.mul_comm instructions.toNat]
  exact ⟨rfl, rfl⟩

end XcmTasks

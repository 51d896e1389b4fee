import XcmTasks.Scale.Basic

/-!
Canonical codecs. The bytes that a canonical decoder reads are exactly those that the encoder
writes, so that encoded values can stand one after another and still be told apart.
-/

namespace XcmTasks

variable {α β γ : Type} {bytes rest : Bytes}

/-! ### Numbers in bytes -/

theorem ofLittleEndian_lt (bytes : Bytes) : ofLittleEndian bytes < Nat.pow 256 bytes.length := by
  induction bytes with
  | nil => simp [ofLittleEndian]
  | cons b bytes ih =>
    have := b.toNat_lt
    rw [ofLittleEndian, List.length_cons, Nat.pow_eq, Nat.pow_succ]
    rw [Nat.pow_eq] at ih
    omega

theorem littleEndian_ofLittleEndian (bytes : Bytes) :
    littleEndian bytes.length (ofLittleEndian bytes) = bytes := by
  induction bytes with
  | nil => rfl
  | cons b bytes ih =>
    have hb := b.toNat_lt
    have low : UInt8.ofNat (b.toNat + 256 * ofLittleEndian bytes) = b := by
      apply UInt8.toNat_inj.mp
      rw [UInt8.toNat_ofNat']
      omega
    have high : (b.toNat + 256 * ofLittleEndian bytes) / 256 = ofLittleEndian bytes := by omega
    rw [ofLittleEndian, List.length_cons, littleEndian, low, high, ih]

namespace Decoder

theorem bind_eq_some {x : Decoder α} {f : α → Decoder β} {b : β} :
    (x >>= f) bytes = some (b, rest) ↔
      ∃ a mid, x bytes = some (a, mid) ∧ f a mid = some (b, rest) := by
  refine ⟨?_, ?_⟩
  · intro h
    obtain ⟨⟨a, mid⟩, hx, hf⟩ := Option.bind_eq_some_iff.mp h
    exact ⟨a, mid, hx, hf⟩
  · rintro ⟨a, mid, hx, hf⟩
    exact Option.bind_eq_some_iff.mpr ⟨(a, mid), hx, hf⟩

theorem pure_eq_some {a b : α} :
    (pure a : Decoder α) bytes = some (b, rest) ↔ a = b ∧ bytes = rest := by
  change some (a, bytes) = some (b, rest) ↔ _
  simp

theorem fail_eq_some {b : α} : (fail : Decoder α) bytes = some (b, rest) ↔ False := by
  simp [fail]

theorem byte_eq_some {b : UInt8} : byte bytes = some (b, rest) ↔ bytes = b :: rest := by
  cases bytes <;> simp [byte]

/-- The decoder reads what the encoder writes for a value that fits, and nothing else. -/
def Reads (d : Decoder α) (encode : α → Bytes) (Fits : α → Prop) : Prop :=
  ∀ (bytes : Bytes) (a : α) (rest : Bytes),
    d bytes = some (a, rest) ↔ Fits a ∧ bytes = encode a ++ rest

theorem Reads.iff {d : Decoder α} {encode : α → Bytes} {Fits : α → Prop}
    (h : Reads d encode Fits) {a : α} :
    d bytes = some (a, rest) ↔ Fits a ∧ bytes = encode a ++ rest := h bytes a rest

/-- Where two values may begin a byte string it is the same value. -/
theorem Reads.append_inj {d : Decoder α} {encode : α → Bytes} {Fits : α → Prop}
    (h : Reads d encode Fits) {a b : α} {rest rest' : Bytes} (ha : Fits a) (hb : Fits b)
    (heq : encode a ++ rest = encode b ++ rest') : a = b ∧ rest = rest' := by
  have read : d (encode a ++ rest) = some (a, rest) := h.iff.mpr ⟨ha, rfl⟩
  have read' : d (encode a ++ rest) = some (b, rest') := h.iff.mpr ⟨hb, heq⟩
  rw [read] at read'
  cases read'
  exact ⟨rfl, rfl⟩

theorem bytes_cons (n : Nat) (b : UInt8) (bs : Bytes) :
    Decoder.bytes (n + 1) (b :: bs) = (Decoder.bytes n bs).map fun p => (b :: p.1, p.2) := by
  rw [Decoder.bytes]
  cases Decoder.bytes n bs <;> rfl

theorem reads_bytes (n : Nat) : Reads (Decoder.bytes n) id (fun bs => bs.length = n) := by
  intro bytes bs rest
  change Decoder.bytes n bytes = some (bs, rest) ↔ bs.length = n ∧ bytes = bs ++ rest
  induction n generalizing bytes bs with
  | zero =>
    rw [List.length_eq_zero_iff, Decoder.bytes, Option.some_inj, Prod.mk.injEq]
    refine ⟨?_, ?_⟩
    · rintro ⟨rfl, rfl⟩
      exact ⟨rfl, rfl⟩
    · rintro ⟨rfl, rfl⟩
      exact ⟨rfl, rfl⟩
  | succ n ih =>
    cases bytes with
    | nil =>
      refine ⟨?_, ?_⟩
      · intro h
        cases h
      · rintro ⟨hn, h⟩
        obtain ⟨rfl, rfl⟩ := List.append_eq_nil_iff.mp h.symm
        cases hn
    | cons b bytes =>
      rw [bytes_cons, Option.map_eq_some_iff]
      refine ⟨?_, ?_⟩
      · rintro ⟨⟨bs', rest'⟩, h, heq⟩
        cases heq
        obtain ⟨rfl, rfl⟩ := (ih _ _).mp h
        exact ⟨rfl, rfl⟩
      · rintro ⟨hn, h⟩
        cases bs with
        | nil => cases hn
        | cons b' bs =>
          obtain ⟨rfl, rfl⟩ := List.cons.inj h
          exact ⟨(bs, rest), (ih _ _).mpr ⟨Nat.succ.inj hn, rfl⟩, rfl⟩

theorem reads_natural (k : Nat) : Reads (natural k) (littleEndian k) (· < Nat.pow 256 k) := by
  intro bytes n rest
  unfold natural
  simp only [bind_eq_some, (reads_bytes k).iff, pure_eq_some]
  refine ⟨?_, ?_⟩
  · rintro ⟨bs, _, ⟨rfl, rfl⟩, rfl, rfl⟩
    rw [littleEndian_ofLittleEndian]
    exact ⟨ofLittleEndian_lt bs, rfl⟩
  · rintro ⟨hn, rfl⟩
    refine ⟨littleEndian k n, rest, ⟨length_littleEndian k n, rfl⟩, ?_, rfl⟩
    rw [ofLittleEndian_littleEndian]
    exact Nat.mod_eq_of_lt hn

section
variable {d : Decoder α} {encode : α → Bytes} {Fits : α → Prop}
variable {d' : Decoder β} {encode' : β → Bytes} {Fits' : β → Prop}

theorem Reads.field_iff (h : Reads d encode Fits) {f : α → γ} {c : γ} :
    (do return f (← d) : Decoder γ) bytes = some (c, rest) ↔
      ∃ a, Fits a ∧ f a = c ∧ bytes = encode a ++ rest := by
  simp only [bind_eq_some, h.iff, pure_eq_some]
  refine ⟨?_, ?_⟩
  · rintro ⟨a, _, ⟨ha, rfl⟩, rfl, rfl⟩
    exact ⟨a, ha, rfl, rfl⟩
  · rintro ⟨a, ha, rfl, rfl⟩
    exact ⟨a, rest, ⟨ha, rfl⟩, rfl, rfl⟩

theorem Reads.fields_iff (h : Reads d encode Fits) (h' : Reads d' encode' Fits')
    {f : α → β → γ} {c : γ} :
    (do let a ← d; let b ← d'; return f a b : Decoder γ) bytes = some (c, rest) ↔
      ∃ a b, (Fits a ∧ Fits' b) ∧ f a b = c ∧ bytes = encode a ++ (encode' b ++ rest) := by
  simp only [bind_eq_some, h.iff, h'.iff, pure_eq_some]
  refine ⟨?_, ?_⟩
  · rintro ⟨a, _, ⟨ha, rfl⟩, b, _, ⟨hb, rfl⟩, rfl, rfl⟩
    exact ⟨a, b, ⟨ha, hb⟩, rfl, rfl⟩
  · rintro ⟨a, b, ⟨ha, hb⟩, rfl, rfl⟩
    exact ⟨a, _, ⟨ha, rfl⟩, b, rest, ⟨hb, rfl⟩, rfl, rfl⟩

theorem Reads.map (h : Reads d encode Fits) {f : α → β} {g : β → α}
    (hf : ∀ a, Fits a → Fits' (f a) ∧ g (f a) = a)
    (hg : ∀ b, Fits' b → Fits (g b) ∧ f (g b) = b) :
    Reads (do return f (← d)) (fun b => encode (g b)) Fits' := by
  intro bytes b rest
  rw [h.field_iff]
  refine ⟨?_, ?_⟩
  · rintro ⟨a, ha, rfl, rfl⟩
    refine ⟨(hf a ha).1, ?_⟩
    dsimp only
    rw [(hf a ha).2]
  · rintro ⟨hb, rfl⟩
    exact ⟨g b, (hg b hb).1, (hg b hb).2, rfl⟩

theorem Reads.both (h : Reads d encode Fits) (h' : Reads d' encode' Fits') {mk : α → β → γ}
    {p : γ → α} {q : γ → β} (hp : ∀ a b, p (mk a b) = a) (hq : ∀ a b, q (mk a b) = b)
    (hmk : ∀ c, mk (p c) (q c) = c) :
    Reads (do let a ← d; let b ← d'; return mk a b) (fun c => encode (p c) ++ encode' (q c))
      fun c => Fits (p c) ∧ Fits' (q c) := by
  intro bytes c rest
  rw [h.fields_iff h', List.append_assoc]
  refine ⟨?_, ?_⟩
  · rintro ⟨a, b, hab, rfl, rfl⟩
    dsimp only
    rw [hp, hq]
    exact ⟨hab, rfl⟩
  · rintro ⟨hc, rfl⟩
    exact ⟨p c, q c, hc, hmk c, rfl⟩

theorem Reads.of_iff {Fits' : α → Prop} (h : Reads d encode Fits) (hf : ∀ a, Fits a ↔ Fits' a) :
    Reads d encode Fits' := by
  intro bytes a rest
  rw [h.iff, hf]

theorem Reads.tagged (h : Reads d encode Fits) (tag : UInt8) {select : UInt8 → Decoder γ}
    {f : α → γ} {encode' : γ → Bytes} {Fits' : γ → Prop} (hs : select tag = do return f (← d))
    (hn : ∀ t, t ≠ tag → select t = fail) (hf : ∀ c, ∃ a, c = f a)
    (he : ∀ a, encode' (f a) = tag :: encode a) (hF : ∀ a, Fits' (f a) ↔ Fits a) :
    Reads (byte >>= select) encode' Fits' := by
  intro bytes c rest
  simp only [bind_eq_some, byte_eq_some]
  refine ⟨?_, ?_⟩
  · rintro ⟨t, mid, rfl, ht⟩
    by_cases htag : t = tag
    · rw [htag, hs, h.field_iff] at ht
      obtain ⟨a, ha, rfl, rfl⟩ := ht
      exact ⟨(hF a).mpr ha, by rw [he, htag]; rfl⟩
    · rw [hn t htag, fail_eq_some] at ht
      exact ht.elim
  · rintro ⟨hc, rfl⟩
    obtain ⟨a, rfl⟩ := hf c
    refine ⟨tag, encode a ++ rest, by rw [he]; rfl, ?_⟩
    rw [hs, h.field_iff]
    exact ⟨a, (hF a).mp hc, rfl, rfl⟩

end

theorem reads_times {d : Decoder α} {encode : α → Bytes} {Fits : α → Prop}
    (h : Reads d encode Fits) (n : Nat) :
    Reads (times d n) (List.flatMap encode) fun as => as.length = n ∧ ∀ a ∈ as, Fits a := by
  induction n with
  | zero =>
    intro bytes as rest
    rw [times, pure_eq_some]
    refine ⟨?_, ?_⟩
    · rintro ⟨rfl, rfl⟩
      exact ⟨⟨rfl, by simp⟩, rfl⟩
    · rintro ⟨⟨hn, -⟩, rfl⟩
      obtain rfl := List.length_eq_zero_iff.mp hn
      exact ⟨rfl, rfl⟩
  | succ n ih =>
    intro bytes as rest
    rw [times]
    simp only [bind_eq_some, h.iff, ih.iff, pure_eq_some]
    refine ⟨?_, ?_⟩
    · rintro ⟨a, _, ⟨ha, rfl⟩, as, _, ⟨⟨rfl, has⟩, rfl⟩, rfl, rfl⟩
      rw [List.flatMap_cons, List.append_assoc]
      exact ⟨⟨rfl, List.forall_mem_cons.mpr ⟨ha, has⟩⟩, rfl⟩
    · rintro ⟨⟨hn, has⟩, rfl⟩
      cases as with
      | nil => cases hn
      | cons a as =>
        obtain ⟨ha, has⟩ := List.forall_mem_cons.mp has
        rw [List.flatMap_cons, List.append_assoc]
        exact ⟨a, _, ⟨ha, rfl⟩, as, rest, ⟨⟨Nat.succ.inj hn, has⟩, rfl⟩, rfl, rfl⟩

end Decoder

/-- A codec that reads exactly what it writes. -/
class Canonical (α : Type) [Scale α] where
  /-- The values that the wire can carry: a list that is too long for its length has no form. -/
  Fits : α → Prop := fun _ => True
  reads : Decoder.Reads (decode : Decoder α) encode Fits

export Canonical (Fits)

open Decoder Canonical

section
variable [Scale α] [Canonical α]

theorem decode_eq_some_iff {a : α} :
    (decode : Decoder α) bytes = some (a, rest) ↔ Fits a ∧ bytes = encode a ++ rest := reads.iff

theorem decode_encode {a : α} (h : Fits a) (rest : Bytes) :
    (decode : Decoder α) (encode a ++ rest) = some (a, rest) := reads.iff.mpr ⟨h, rfl⟩

theorem decodeFront_encode {a : α} (h : Fits a) : decodeFront α (encode a) = some a := by
  have read := decode_encode h []
  rw [List.append_nil] at read
  unfold decodeFront
  rw [read]
  rfl

theorem encode_inj {a b : α} (ha : Fits a) (hb : Fits b) (h : encode a = encode b) : a = b := by
  have alone : encode a ++ [] = encode b ++ [] := by rw [h]
  exact (reads.append_inj ha hb alone).1

end

/-! ### Bytes and words -/

instance : Canonical UInt8 where
  reads bytes b rest := by
    rw [true_and]
    exact byte_eq_some

instance : Canonical UInt32 where
  reads := (reads_natural 4).map (fun _ hn => ⟨trivial, UInt32.toNat_ofNat_of_lt' hn⟩)
    fun w _ => ⟨w.toNat_lt, UInt32.ofNat_toNat⟩

instance : Canonical UInt64 where
  reads := (reads_natural 8).map (fun _ hn => ⟨trivial, UInt64.toNat_ofNat_of_lt' hn⟩)
    fun w _ => ⟨w.toNat_lt, UInt64.ofNat_toNat⟩

theorem toNat_bitVec_ofNat {n : Nat} (h : n < UInt128.size) : (BitVec.ofNat 128 n).toNat = n := by
  rw [BitVec.toNat_ofNat]
  exact Nat.mod_eq_of_lt h

theorem bitVec_ofNat_toNat (w : UInt128) : BitVec.ofNat 128 w.toNat = w := by
  rw [BitVec.ofNat_toNat, BitVec.setWidth_eq]

instance : Canonical UInt128 where
  reads := (reads_natural 16).map (fun _ hn => ⟨trivial, toNat_bitVec_ofNat hn⟩)
    fun w _ => ⟨w.isLt, bitVec_ofNat_toNat w⟩

instance {n : Nat} : Canonical (FixedBytes n) where
  reads bytes block rest := by
    unfold instScaleFixedBytes fixedBytes
    simp only [bind_eq_some, (reads_bytes n).iff, id, true_and]
    refine ⟨?_, ?_⟩
    · rintro ⟨bs, mid, ⟨hn, rfl⟩, h⟩
      cases hb : FixedBytes.ofList? n bs with
      | none =>
        rw [hb] at h
        exact (fail_eq_some.mp h).elim
      | some block' =>
        rw [hb] at h
        obtain ⟨rfl, rfl⟩ := pure_eq_some.mp h
        rw [← FixedBytes.toList_of_ofList? hb]
    · rintro rfl
      refine ⟨block.toList, rest, ⟨block.length_toList, rfl⟩, ?_⟩
      rw [FixedBytes.ofList?_toList]
      exact pure_eq_some.mpr ⟨rfl, rfl⟩

/-! ### Tags and parts -/

instance : Canonical Bool where
  reads bytes b rest := by
    unfold instScaleBool
    simp only [bind_eq_some, byte_eq_some, true_and]
    refine ⟨?_, ?_⟩
    · rintro ⟨tag, mid, rfl, h⟩
      split at h
      · obtain ⟨rfl, rfl⟩ := pure_eq_some.mp h
        rfl
      · obtain ⟨rfl, rfl⟩ := pure_eq_some.mp h
        rfl
      · exact (fail_eq_some.mp h).elim
    · rintro rfl
      cases b with
      | false => exact ⟨0, rest, rfl, pure_eq_some.mpr ⟨rfl, rfl⟩⟩
      | true => exact ⟨1, rest, rfl, pure_eq_some.mpr ⟨rfl, rfl⟩⟩

instance [Scale α] [Canonical α] : Canonical (Option α) where
  Fits o := ∀ a ∈ o, Fits a
  reads bytes o rest := by
    unfold instScaleOption
    simp only [bind_eq_some, byte_eq_some]
    refine ⟨?_, ?_⟩
    · rintro ⟨tag, mid, rfl, h⟩
      split at h
      · obtain ⟨rfl, rfl⟩ := pure_eq_some.mp h
        exact ⟨by simp, rfl⟩
      · obtain ⟨a, ha, rfl, rfl⟩ := reads.field_iff.mp h
        exact ⟨by simpa using ha, rfl⟩
      · exact (fail_eq_some.mp h).elim
    · rintro ⟨ho, rfl⟩
      cases o with
      | none => exact ⟨0, rest, rfl, pure_eq_some.mpr ⟨rfl, rfl⟩⟩
      | some a => exact ⟨1, _, rfl, reads.field_iff.mpr ⟨a, ho a rfl, rfl, rfl⟩⟩

instance [Scale α] [Canonical α] [Scale β] [Canonical β] : Canonical (α × β) where
  Fits p := Fits p.1 ∧ Fits p.2
  reads := Reads.both reads reads (fun _ _ => rfl) (fun _ _ => rfl) fun _ => rfl

end XcmTasks

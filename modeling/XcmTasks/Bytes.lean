/-! Byte strings, byte strings of a fixed length, and numbers written lowest byte first. -/

namespace XcmTasks

abbrev Bytes := List UInt8

/-- Token amounts, rates and general indices. -/
abbrev UInt128 := BitVec 128

abbrev UInt128.size : Nat := 340282366920938463463374607431768211456

abbrev signedSize : Nat := 9223372036854775808

structure FixedBytes (n : Nat) where
  toList : Bytes
  length_toList : toList.length = n
deriving DecidableEq, Repr

namespace FixedBytes

variable {n : Nat}

theorem ext {a b : FixedBytes n} (h : a.toList = b.toList) : a = b := by
  cases a; cases b; cases h; rfl

def ofList? (n : Nat) (bytes : Bytes) : Option (FixedBytes n) :=
  if h : bytes.length = n then some ⟨bytes, h⟩ else none

@[simp] theorem ofList?_toList (a : FixedBytes n) : ofList? n a.toList = some a := by
  simp [ofList?, a.length_toList]

theorem toList_of_ofList? {bytes : Bytes} {a : FixedBytes n} (h : ofList? n bytes = some a) :
    a.toList = bytes := by
  unfold ofList? at h
  split at h
  · cases h; rfl
  · cases h

/-- The first `n` bytes, filled up with zeros. -/
def fit (n : Nat) (bytes : Bytes) : FixedBytes n :=
  ⟨(bytes ++ List.replicate n 0).take n, by simp⟩

def zero : FixedBytes n := ⟨List.replicate n 0, by simp⟩

instance : Inhabited (FixedBytes n) := ⟨zero⟩

end FixedBytes

def littleEndian : Nat → Nat → Bytes
  | 0, _ => []
  | k + 1, n => UInt8.ofNat n :: littleEndian k (n / 256)

def ofLittleEndian : Bytes → Nat
  | [] => 0
  | b :: bytes => b.toNat + 256 * ofLittleEndian bytes

@[simp] theorem length_littleEndian (k n : Nat) : (littleEndian k n).length = k := by
  induction k generalizing n with
  | zero => rfl
  | succ k ih => simp [littleEndian, ih]

theorem ofLittleEndian_littleEndian (k n : Nat) :
    ofLittleEndian (littleEndian k n) = n % Nat.pow 256 k := by
  induction k generalizing n with
  | zero => simp [littleEndian, ofLittleEndian, Nat.mod_one]
  | succ k ih =>
    have low : (UInt8.ofNat n).toNat = n % 256 := UInt8.toNat_ofNat'
    rw [littleEndian, ofLittleEndian, ih, low, Nat.pow_eq, Nat.pow_eq, Nat.pow_succ', Nat.mod_mul]

def utf8 (text : String) : Bytes := text.toUTF8.data.toList

def ofUtf8? (bytes : Bytes) : Option String := String.fromUTF8? ⟨bytes.toArray⟩

end XcmTasks

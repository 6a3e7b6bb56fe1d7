/-!
# Words of bytes

Numbers of a fixed byte width and their big-endian bytes.

* `ofBigEndian_bigEndian`: the bytes of a number below `256 ^ width` spell it;
* `bigEndian_ofBigEndian`: bytes are the word they spell;
* `Word.toBytes_injective`, `Word.ofBytes?_toBytes`, `Word.toBytes_of_ofBytes?`: a word is its bytes.
-/

namespace TokenBridge

/-- The `width` low bytes of a number, most significant first. -/
def bigEndian : Nat → Nat → List UInt8
  | 0, _ => []
  | width + 1, n => bigEndian width (n / 256) ++ [UInt8.ofNat n]

/-- The number that bytes spell, most significant first. -/
def ofBigEndian (bytes : List UInt8) : Nat :=
  bytes.foldl (fun n byte => 256 * n + byte.toNat) 0

@[simp] theorem length_bigEndian (width n : Nat) : (bigEndian width n).length = width := by
  induction width generalizing n with
  | zero => rfl
  | succ width ih => simp [bigEndian, ih]

theorem ofBigEndian_concat (bytes : List UInt8) (byte : UInt8) :
    ofBigEndian (bytes ++ [byte]) = 256 * ofBigEndian bytes + byte.toNat := by
  simp [ofBigEndian]

theorem ofBigEndian_bigEndian {width n : Nat} (h : n < Nat.pow 256 width) :
    ofBigEndian (bigEndian width n) = n := by
  induction width generalizing n with
  | zero =>
    have hZero : n = 0 := Nat.lt_one_iff.mp h
    subst hZero
    rfl
  | succ width ih =>
    rw [Nat.pow_eq, Nat.pow_succ, ← Nat.pow_eq] at h
    rw [bigEndian, ofBigEndian_concat, ih (Nat.div_lt_of_lt_mul (by omega))]
    simp only [UInt8.toNat_ofNat']
    omega

theorem exists_concat {width : Nat} {bytes : List UInt8} (h : bytes.length = width + 1) :
    ∃ front byte, bytes = front ++ [byte] ∧ front.length = width := by
  have hne : bytes ≠ [] := by
    intro he
    simp [he] at h
  exact ⟨bytes.dropLast, bytes.getLast hne, (List.dropLast_concat_getLast hne).symm, by simp [h]⟩

theorem ofBigEndian_lt {width : Nat} {bytes : List UInt8} (h : bytes.length = width) :
    ofBigEndian bytes < Nat.pow 256 width := by
  induction width generalizing bytes with
  | zero =>
    have : bytes = [] := List.length_eq_zero_iff.mp h
    subst this
    simp [ofBigEndian]
  | succ width ih =>
    obtain ⟨front, byte, rfl, hf⟩ := exists_concat h
    rw [ofBigEndian_concat, Nat.pow_eq, Nat.pow_succ, ← Nat.pow_eq]
    have := ih hf
    have := byte.toNat_lt
    omega

theorem bigEndian_ofBigEndian {width : Nat} {bytes : List UInt8} (h : bytes.length = width) :
    bigEndian width (ofBigEndian bytes) = bytes := by
  induction width generalizing bytes with
  | zero =>
    have : bytes = [] := List.length_eq_zero_iff.mp h
    subst this
    rfl
  | succ width ih =>
    obtain ⟨front, byte, rfl, hf⟩ := exists_concat h
    have hb : byte.toNat < 256 := byte.toNat_lt
    rw [ofBigEndian_concat, bigEndian,
      show (256 * ofBigEndian front + byte.toNat) / 256 = ofBigEndian front by omega, ih hf]
    congr 1
    simp only [List.cons.injEq, and_true]
    apply UInt8.toNat_inj.mp
    simp only [UInt8.toNat_ofNat']
    omega

/-- A number of `width` bytes. -/
structure Word (width : Nat) where
  toNat : Nat
  isLt : toNat < Nat.pow 256 width
deriving DecidableEq, Repr

namespace Word

variable {width : Nat}

@[ext] theorem ext {a b : Word width} (h : a.toNat = b.toNat) : a = b := by
  cases a
  cases b
  simp_all

/-- The low bytes of a number. -/
def ofNat (width n : Nat) : Word width :=
  ⟨n % Nat.pow 256 width, Nat.mod_lt _ (Nat.pow_pos (by decide))⟩

theorem toNat_ofNat {n : Nat} (h : n < Nat.pow 256 width) : (ofNat width n).toNat = n :=
  Nat.mod_eq_of_lt h

instance : Inhabited (Word width) :=
  ⟨ofNat width 0⟩

/-- The bytes of a word, most significant first. -/
def toBytes (w : Word width) : List UInt8 :=
  bigEndian width w.toNat

/-- The word of exactly `width` bytes. -/
def ofBytes? (bytes : List UInt8) : Option (Word width) :=
  if h : bytes.length = width then some ⟨ofBigEndian bytes, ofBigEndian_lt h⟩ else none

@[simp] theorem length_toBytes (w : Word width) : w.toBytes.length = width :=
  length_bigEndian _ _

@[simp] theorem ofBytes?_toBytes (w : Word width) : ofBytes? w.toBytes = some w := by
  have h : w.toBytes.length = width := length_toBytes w
  rw [ofBytes?, dif_pos h]
  congr 1
  exact Word.ext (ofBigEndian_bigEndian w.isLt)

theorem toBytes_of_ofBytes? {bytes : List UInt8} {w : Word width} (h : ofBytes? bytes = some w) :
    w.toBytes = bytes := by
  unfold ofBytes? at h
  split at h
  · rename_i hl
    cases h
    exact bigEndian_ofBigEndian hl
  · cases h

theorem toBytes_injective {a b : Word width} (h : a.toBytes = b.toBytes) : a = b := by
  have := ofBytes?_toBytes a
  rw [h, ofBytes?_toBytes] at this
  exact (Option.some.inj this).symm

end Word

/-- The 32 bytes of a hash. -/
abbrev Digest := Word 32

end TokenBridge

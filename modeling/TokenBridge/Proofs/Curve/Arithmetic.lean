import Mathlib.Data.List.Dedup
import Mathlib.FieldTheory.Finite.Basic
import Mathlib.NumberTheory.LucasPrimality
import Mathlib.Tactic.NormNum.Prime
import TokenBridge.Curve.Secp256k1

/-!
# Arithmetic modulo the two primes

Powers are computed by squaring along the bits of the exponent. The modulus of the field and the
order of the group are prime: each has a base whose powers return to one after one less than the
number and no sooner, by the prime factors of one less, which are prime for the same reason. So
powers give inverses and square roots.

* `foldl_bits_of_lt`: what a step along the bits keeps;
* `powMod_eq`: powers;
* `Certificate.prime`, `prime_of_chain`: primality by the factors of one less;
* `prime_prime`, `prime_order`: the two primes;
* `cast_inverse`, `root_cases`: inverses and roots.
-/

namespace TokenBridge.Secp256k1

/-! ## Bits -/

/-- A step that takes `n` to `2 * n` or `2 * n + 1` takes zero to the number that the bits spell. -/
theorem foldl_bits {σ : Type} {R : Nat → σ → Prop} {step : σ → Bool → σ}
    (hStep : ∀ n s bit, R n s → R (2 * n + bit.toNat) (step s bit)) (width n : Nat) {m : Nat}
    {s : σ} (h : R m s) : R (m * 2 ^ width + n % 2 ^ width) ((bits width n).foldl step s) := by
  induction width generalizing m s with
  | zero =>
    rw [Nat.pow_zero, Nat.mul_one, Nat.mod_one, Nat.add_zero]
    exact h
  | succ width ih =>
    rw [bits, List.foldl_cons]
    have hNext := ih (hStep m s (n.testBit width) h)
    have hSum : (2 * m + (n.testBit width).toNat) * 2 ^ width + n % 2 ^ width =
        m * 2 ^ (width + 1) + n % 2 ^ (width + 1) := by
      rw [Nat.mod_pow_succ, Nat.toNat_testBit, Nat.pow_succ]
      ring
    rwa [hSum] at hNext

theorem foldl_bits_of_lt {σ : Type} {R : Nat → σ → Prop} {step : σ → Bool → σ}
    (hStep : ∀ n s bit, R n s → R (2 * n + bit.toNat) (step s bit)) {width n : Nat} {s : σ}
    (h : R 0 s) (hSize : n < 2 ^ width) : R n ((bits width n).foldl step s) := by
  have hFold := foldl_bits hStep width n h
  rwa [Nat.zero_mul, Nat.zero_add, Nat.mod_eq_of_lt hSize] at hFold

/-! ## Powers -/

theorem powMod_eq {m base exponent : Nat} (h : exponent < 2 ^ 256) :
    powMod m base exponent = base ^ exponent % m := by
  refine foldl_bits_of_lt (R := fun n acc => acc = base ^ n % m) ?_ (by simp) h
  rintro n acc bit rfl
  have hSquare : base ^ n % m * (base ^ n % m) % m = base ^ (2 * n) % m := by
    rw [← Nat.mul_mod, two_mul, pow_add]
  cases bit with
  | false => simpa using hSquare
  | true => simp [hSquare, pow_succ]

/-! ## Primality -/

/-- A number with a base and the prime factors of one less. -/
structure Certificate where
  number : Nat
  base : Nat
  factors : List Nat

/-- One less is the product of the factors, all of which are known to be prime, and is the least
power of the base that is one. -/
def Certificate.holds (known : List Nat) (c : Certificate) : Bool :=
  decide (1 < c.number ∧ c.number ≤ 2 ^ 256) && c.factors.prod == c.number - 1 &&
    powMod c.number c.base (c.number - 1) == 1 &&
    c.factors.dedup.all fun q =>
      known.contains q && powMod c.number c.base ((c.number - 1) / q) != 1

/-- Each certificate holds once the numbers before it are known. -/
def chain : List Nat → List Certificate → Bool
  | _, [] => true
  | known, c :: rest => c.holds known && chain (c.number :: known) rest

theorem cast_pow_eq_one_iff {m base exponent : Nat} (hm : 1 < m) (h : exponent < 2 ^ 256) :
    (base : ZMod m) ^ exponent = 1 ↔ powMod m base exponent = 1 := by
  rw [powMod_eq h, ← Nat.cast_pow, ← Nat.cast_one, ZMod.natCast_eq_natCast_iff',
    Nat.mod_eq_of_lt hm]

theorem Certificate.prime {known : List Nat} {c : Certificate} (hKnown : ∀ q ∈ known, q.Prime)
    (h : c.holds known = true) : c.number.Prime := by
  simp only [holds, Bool.and_eq_true, decide_eq_true_eq, beq_iff_eq, List.all_eq_true,
    List.mem_dedup, List.contains_iff_mem, bne_iff_ne] at h
  obtain ⟨⟨⟨⟨hOne, hSize⟩, hProduct⟩, hPower⟩, hFactors⟩ := h
  have hExponent : ∀ n ≤ c.number - 1, n < 2 ^ 256 := fun n hn => by omega
  refine lucas_primality c.number c.base ?_ fun q hPrime hDivides => ?_
  · exact (cast_pow_eq_one_iff hOne (hExponent _ le_rfl)).mpr hPower
  · rw [← hProduct] at hDivides
    obtain ⟨r, hMem, hDivides⟩ := hPrime.prime.dvd_prod_iff.mp hDivides
    obtain rfl := (Nat.prime_dvd_prime_iff_eq hPrime (hKnown r (hFactors r hMem).1)).mp hDivides
    rw [ne_eq, cast_pow_eq_one_iff hOne (hExponent _ (Nat.div_le_self _ _))]
    exact (hFactors q hMem).2

theorem prime_of_chain {known : List Nat} {cs : List Certificate}
    (hKnown : ∀ q ∈ known, q.Prime) (h : chain known cs = true) :
    ∀ c ∈ cs, c.number.Prime := by
  induction cs generalizing known with
  | nil => exact fun c hMem => absurd hMem List.not_mem_nil
  | cons first rest ih =>
    rw [chain, Bool.and_eq_true] at h
    have hFirst := Certificate.prime hKnown h.1
    have hRest := ih (List.forall_mem_cons.mpr ⟨hFirst, hKnown⟩) h.2
    exact List.forall_mem_cons.mpr ⟨hFirst, hRest⟩

/-- The small primes that the certificates start from. -/
def smallPrimes : List Nat :=
  [2, 3, 5, 7, 11, 17, 29, 31, 41, 53, 59, 109, 149, 293, 461, 631, 797, 971, 1373, 1627, 2621,
    2657, 4051, 4423, 5323, 7723, 9349, 13441, 16699, 24809, 28181, 41201, 85831, 96557, 120233,
    305873, 1627771, 4681609, 7240687]

theorem prime_of_mem_smallPrimes : ∀ q ∈ smallPrimes, q.Prime := by
  norm_num [smallPrimes]

/-- The certificates that lead to the two primes. -/
def certificates : List Certificate :=
  [⟨13331831, 13, [2, 5, 971, 1373]⟩,
   ⟨44706919, 6, [2, 3, 797, 9349]⟩,
   ⟨107590001, 3, [2, 2, 2, 2, 5, 5, 5, 5, 7, 29, 53]⟩,
   ⟨545358713, 5, [2, 2, 2, 41, 59, 28181]⟩,
   ⟨297159362677, 2, [2, 2, 3, 3, 11, 461, 1627771]⟩,
   ⟨107361793816595537, 3, [2, 2, 2, 2, 16699, 85831, 4681609]⟩,
   ⟨173378833005251801, 6, [2, 2, 2, 5, 5, 2621, 24809, 13331831]⟩,
   ⟨174723607534414371449, 3, [2, 2, 2, 17, 59, 4051, 120233, 44706919]⟩,
   ⟨22149492674086928081353, 5, [2, 2, 2, 3, 5323, 173378833005251801]⟩,
   ⟨132896956044521568488119, 6, [2, 3, 22149492674086928081353]⟩,
   ⟨29047611873442575647497758179, 2, [2, 293, 305873, 545358713, 297159362677]⟩,
   ⟨341948486974166000522343609283189, 2, [2, 2, 3, 3, 3, 109, 29047611873442575647497758179]⟩,
   ⟨255515944373312847190720520512484175977, 3,
      [2, 2, 2, 7, 7, 11, 1627, 2657, 4423, 41201, 96557, 7240687, 107590001]⟩,
   ⟨205115282021455665897114700593932402728804164701536103180137503955397371, 10,
      [2, 3, 5, 29, 29, 31, 7723, 132896956044521568488119,
      255515944373312847190720520512484175977]⟩,
   ⟨order, 7,
      [2, 2, 2, 2, 2, 2, 3, 149, 631, 107361793816595537, 174723607534414371449,
      341948486974166000522343609283189]⟩,
   ⟨prime, 3,
      [2, 3, 7, 13441, 205115282021455665897114700593932402728804164701536103180137503955397371]⟩]

theorem prime_of_mem_certificates : ∀ c ∈ certificates, c.number.Prime :=
  prime_of_chain prime_of_mem_smallPrimes (by decide +kernel)

theorem prime_prime : prime.Prime := by
  obtain ⟨c, hMem, hNumber⟩ : ∃ c ∈ certificates, c.number = prime := by
    simp [certificates]
  exact hNumber ▸ prime_of_mem_certificates c hMem

theorem prime_order : order.Prime := by
  obtain ⟨c, hMem, hNumber⟩ : ∃ c ∈ certificates, c.number = order := by
    simp [certificates]
  exact hNumber ▸ prime_of_mem_certificates c hMem

instance : Fact prime.Prime :=
  ⟨prime_prime⟩

instance : Fact order.Prime :=
  ⟨prime_order⟩

/-! ## Inverses, roots and reduced numbers -/

theorem cast_ne_zero {m n : Nat} (hPos : 0 < n) (hSmall : n < m) : (n : ZMod m) ≠ 0 := by
  rw [ne_eq, ZMod.natCast_eq_zero_iff]
  exact Nat.not_dvd_of_pos_of_lt hPos hSmall

theorem two_ne_zero {m : Nat} (hSize : 2 < m) : (2 : ZMod m) ≠ 0 := by
  exact_mod_cast cast_ne_zero (n := 2) (by decide) hSize

theorem cast_inverse {m n : Nat} [Fact m.Prime] (hSize : m < 2 ^ 256) (h : (n : ZMod m) ≠ 0) :
    ((inverse m n : Nat) : ZMod m) = (n : ZMod m)⁻¹ := by
  have hTwo : 2 ≤ m := (Fact.out : m.Prime).two_le
  have hPower : m - 2 + 1 = m - 1 := by omega
  refine eq_inv_of_mul_eq_one_left ?_
  rw [inverse, powMod_eq (by omega), ZMod.natCast_mod, Nat.cast_pow, ← pow_succ, hPower,
    ZMod.pow_card_sub_one_eq_one h]

/-- A power of a square is one of its two roots. -/
theorem root_cases {m : Nat} [Fact m.Prime] (hm : m % 4 = 3) (a : ZMod m) :
    (a ^ 2) ^ ((m + 1) / 4) = a ∨ (a ^ 2) ^ ((m + 1) / 4) = -a := by
  have hExponent : 2 * ((m + 1) / 4 * 2) = m + 1 := by omega
  rw [← sq_eq_sq_iff_eq_or_eq_neg, ← pow_mul, ← pow_mul, hExponent, pow_succ, ZMod.pow_card, sq]

theorem eq_val_of_cast {m n : Nat} {a : ZMod m} (hReduced : n < m) (h : (n : ZMod m) = a) :
    n = a.val := by
  rw [← h, ZMod.val_cast_of_lt hReduced]

end TokenBridge.Secp256k1

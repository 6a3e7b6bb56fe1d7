import Mathlib.AlgebraicGeometry.EllipticCurve.Affine.Point
import Mathlib.GroupTheory.OrderOfElement
import TokenBridge.Proofs.Curve.Arithmetic

/-!
# Points as a group

The points of `y² = x³ + 7` over the field of `prime` elements form a group. The projective
arithmetic on numbers is its addition: a form represents an element if it is that element's
coordinates, scaled, and the three operations on forms keep this. So a multiple of a form does not
depend on the order of doublings and additions that led to it, and the generator has order `order`.

* `Located.double`, `Located.add`: the tangent and the secant;
* `Represents.double`, `Represents.add`, `Represents.mul`: sums and multiples;
* `Represents.affine?_eq`: the coordinates of a form;
* `addOrderOf_base`, `nsmul_base_eq_iff`: the group that keys live in;
* `lift?_eq`: the point with a given first coordinate and parity.
-/

namespace TokenBridge.Secp256k1

/-! ## The curve -/

/-- The curve `y² = x³ + 7`. -/
def curve : WeierstrassCurve.Affine (ZMod prime) :=
  ⟨0, 0, 0, 0, 7⟩

abbrev Element : Type :=
  curve.Point

section Curve

variable {x y x' y' : ZMod prime}

theorem discriminant_ne_zero : curve.Δ ≠ 0 := by
  have hDiscriminant : curve.Δ = -((21168 : Nat) : ZMod prime) := by
    simp only [WeierstrassCurve.Δ, WeierstrassCurve.b₂, WeierstrassCurve.b₄, WeierstrassCurve.b₆,
      WeierstrassCurve.b₈, curve]
    push_cast
    ring
  rw [hDiscriminant, neg_ne_zero]
  exact cast_ne_zero (by decide) (by decide)

theorem nonsingular_iff : curve.Nonsingular x y ↔ y ^ 2 = x ^ 3 + 7 := by
  rw [← curve.equation_iff_nonsingular_of_Δ_ne_zero discriminant_ne_zero,
    WeierstrassCurve.Affine.equation_iff]
  simp [curve]

theorem negY_eq : curve.negY x y = -y := by
  simp [WeierstrassCurve.Affine.negY, curve]

/-- The sum of two points, by the slope of the line through them or of the tangent. -/
theorem some_add_some (h : curve.Nonsingular x y) (h' : curve.Nonsingular x' y')
    (hLine : ¬(x = x' ∧ y = -y')) :
    ∃ slope : ZMod prime,
      (x = x' → slope * (2 * y) = 3 * x ^ 2) ∧ (x ≠ x' → slope * (x' - x) = y' - y) ∧
      ∃ h'' : curve.Nonsingular (slope ^ 2 - x - x') (-(slope * (slope ^ 2 - x - x' - x) + y)),
        (.some x y h + .some x' y' h' : Element) = .some _ _ h'' := by
  have hApart : ¬(x = x' ∧ y = curve.negY x' y') := by rwa [negY_eq]
  have hX : curve.addX x x' (curve.slope x x' y y') = curve.slope x x' y y' ^ 2 - x - x' := by
    simp [curve]
  have hY : curve.addY x x' y (curve.slope x x' y y') =
      -(curve.slope x x' y y' * (curve.slope x x' y y' ^ 2 - x - x' - x) + y) := by
    rw [WeierstrassCurve.Affine.addY, WeierstrassCurve.Affine.negAddY, hX, negY_eq]
  refine ⟨curve.slope x x' y y', ?_, ?_, ?_⟩
  · rintro rfl
    have hy : y ≠ curve.negY x y' := fun hEq => hApart ⟨rfl, hEq⟩
    obtain rfl := WeierstrassCurve.Affine.Y_eq_of_Y_ne h.1 h'.1 rfl hy
    have hTwice : y - curve.negY x y = 2 * y := by
      rw [negY_eq]
      ring
    have hNonzero : 2 * y ≠ 0 := hTwice ▸ sub_ne_zero.mpr hy
    rw [WeierstrassCurve.Affine.slope_of_Y_ne rfl hy, hTwice, div_mul_cancel₀ _ hNonzero]
    simp [curve]
  · intro hx
    rw [WeierstrassCurve.Affine.slope_of_X_ne hx, ← neg_sub x x', mul_neg,
      div_mul_cancel₀ _ (sub_ne_zero.mpr hx), neg_sub]
  · rw [← hY, ← hX]
    exact ⟨_, WeierstrassCurve.Affine.Point.add_some hApart⟩

end Curve

/-! ## Reduced differences -/

theorem cast_minus_mod (a b : Nat) : ((minus a (b % prime) : Nat) : ZMod prime) = a - b := by
  have hReduced : b % prime ≤ a + prime := by
    have := Nat.mod_lt b prime_prime.pos
    omega
  rw [minus, ZMod.natCast_mod, Nat.cast_sub hReduced, Nat.cast_add, ZMod.natCast_self, add_zero,
    ZMod.natCast_mod]

theorem cast_minus_minus (a b c : Nat) :
    ((minus a (minus b c) : Nat) : ZMod prime) = a - (minus b c : Nat) :=
  (cast_minus_mod a _).trans (by rw [minus, ZMod.natCast_mod])

theorem minus_lt (a b : Nat) : minus a b < prime :=
  Nat.mod_lt _ prime_prime.pos

/-! ## The tangent and the secant -/

/-- A form of the point with two given coordinates. -/
structure Located (p : Point) (x y : ZMod prime) : Prop where
  finite : (p.z : ZMod prime) ≠ 0
  reduced : p.y < prime
  x_eq : (p.x : ZMod prime) = x * p.z ^ 2
  y_eq : (p.y : ZMod prime) = y * p.z ^ 3

section Located

variable {p q : Point} {x y x' y' slope : ZMod prime}

theorem Located.z_ne_zero (hp : Located p x y) : p.z ≠ 0 := by
  intro hZero
  apply hp.finite
  rw [hZero, Nat.cast_zero]

theorem Located.y_eq_zero_iff (hp : Located p x y) : p.y = 0 ↔ y = 0 := by
  constructor
  · intro hZero
    have hProduct := hp.y_eq
    rw [hZero, Nat.cast_zero] at hProduct
    exact (mul_eq_zero.mp hProduct.symm).resolve_right (pow_ne_zero _ hp.finite)
  · rintro rfl
    by_contra hNonzero
    apply cast_ne_zero (Nat.pos_of_ne_zero hNonzero) hp.reduced
    rw [hp.y_eq, zero_mul]

/-- Doubling follows the tangent. -/
theorem Located.double (hp : Located p x y) (hy : y ≠ 0) (hSlope : slope * (2 * y) = 3 * x ^ 2) :
    Located p.double (slope ^ 2 - x - x) (-(slope * (slope ^ 2 - x - x - x) + y)) := by
  have hOpen : ¬(p.z = 0 ∨ p.y = 0) := by
    rw [hp.y_eq_zero_iff]
    exact not_or.mpr ⟨hp.z_ne_zero, hy⟩
  rw [Point.double, if_neg hOpen]
  refine ⟨?_, minus_lt _ _, ?_, ?_⟩
  · simp only [ZMod.natCast_mod, Nat.cast_mul, Nat.cast_ofNat, hp.y_eq]
    have hScaled := mul_ne_zero hy (pow_ne_zero 3 hp.finite)
    exact mul_ne_zero (mul_ne_zero (two_ne_zero (by decide)) hScaled) hp.finite
  · simp only [cast_minus_mod, ZMod.natCast_mod, Nat.cast_mul, Nat.cast_ofNat, hp.x_eq, hp.y_eq]
    linear_combination -(slope * (2 * y) + 3 * x ^ 2) * (p.z : ZMod prime) ^ 8 * hSlope
  · simp only [cast_minus_mod, cast_minus_minus, ZMod.natCast_mod, Nat.cast_mul, Nat.cast_ofNat,
      hp.x_eq, hp.y_eq]
    linear_combination (3 * x ^ 2 * (slope * (2 * y) + 3 * x ^ 2) -
      4 * y ^ 2 * (x - (slope ^ 2 - x - x))) * (p.z : ZMod prime) ^ 12 * hSlope

theorem mod_eq_iff_of_scaled {a b : Nat} {c u v : ZMod prime} (hScale : c ≠ 0)
    (ha : (a : ZMod prime) = u * c) (hb : (b : ZMod prime) = v * c) :
    a % prime = b % prime ↔ u = v := by
  rw [← ZMod.natCast_eq_natCast_iff', ha, hb, mul_left_inj' hScale]

theorem Located.x_eq_iff (hp : Located p x y) (hq : Located q x' y') :
    p.x * (q.z * q.z % prime) % prime = q.x * (p.z * p.z % prime) % prime ↔ x = x' := by
  refine mod_eq_iff_of_scaled (c := (p.z : ZMod prime) ^ 2 * (q.z : ZMod prime) ^ 2) ?_ ?_ ?_
  · exact mul_ne_zero (pow_ne_zero _ hp.finite) (pow_ne_zero _ hq.finite)
  · simp only [ZMod.natCast_mod, Nat.cast_mul, hp.x_eq]
    ring
  · simp only [ZMod.natCast_mod, Nat.cast_mul, hq.x_eq]
    ring

theorem Located.y_eq_iff (hp : Located p x y) (hq : Located q x' y') :
    p.y * q.z % prime * (q.z * q.z % prime) % prime =
      q.y * p.z % prime * (p.z * p.z % prime) % prime ↔ y = y' := by
  refine mod_eq_iff_of_scaled (c := (p.z : ZMod prime) ^ 3 * (q.z : ZMod prime) ^ 3) ?_ ?_ ?_
  · exact mul_ne_zero (pow_ne_zero _ hp.finite) (pow_ne_zero _ hq.finite)
  · simp only [ZMod.natCast_mod, Nat.cast_mul, hp.y_eq]
    ring
  · simp only [ZMod.natCast_mod, Nat.cast_mul, hq.y_eq]
    ring

/-- Adding two forms of points on one vertical line. -/
theorem Located.add_of_x_eq (hp : Located p x y) (hq : Located q x y') :
    p.add q = if y = y' then p.double else .zero := by
  rw [Point.add, if_neg hp.z_ne_zero, if_neg hq.z_ne_zero]
  simp only [hp.x_eq_iff hq, hp.y_eq_iff hq, if_true]

/-- Adding follows the secant. -/
theorem Located.add (hp : Located p x y) (hq : Located q x' y') (hx : x ≠ x')
    (hSlope : slope * (x' - x) = y' - y) :
    Located (p.add q) (slope ^ 2 - x - x') (-(slope * (slope ^ 2 - x - x' - x) + y)) := by
  rw [Point.add, if_neg hp.z_ne_zero, if_neg hq.z_ne_zero]
  simp only [hp.x_eq_iff hq, if_neg hx]
  refine ⟨?_, minus_lt _ _, ?_, ?_⟩
  · have hScaled : ((minus (q.x * (p.z * p.z % prime) % prime)
        (p.x * (q.z * q.z % prime) % prime) : Nat) : ZMod prime) =
        (x' - x) * ((p.z : ZMod prime) ^ 2 * (q.z : ZMod prime) ^ 2) := by
      simp only [cast_minus_mod, ZMod.natCast_mod, Nat.cast_mul, hp.x_eq, hq.x_eq]
      ring
    simp only [ZMod.natCast_mod, Nat.cast_mul, hScaled]
    have hSquares := mul_ne_zero (pow_ne_zero 2 hp.finite) (pow_ne_zero 2 hq.finite)
    have hApart := mul_ne_zero (sub_ne_zero.mpr hx.symm) hSquares
    exact mul_ne_zero (mul_ne_zero hApart hp.finite) hq.finite
  · simp only [cast_minus_mod, ZMod.natCast_mod, Nat.cast_mul, Nat.cast_ofNat, hp.x_eq, hp.y_eq,
      hq.x_eq, hq.y_eq]
    linear_combination -(slope * (x' - x) + (y' - y)) * (p.z : ZMod prime) ^ 6 *
      (q.z : ZMod prime) ^ 6 * hSlope
  · simp only [cast_minus_mod, cast_minus_minus, ZMod.natCast_mod, Nat.cast_mul, Nat.cast_ofNat,
      hp.x_eq, hp.y_eq, hq.x_eq, hq.y_eq]
    linear_combination ((y' - y) * (slope * (x' - x) + (y' - y)) -
      (x' - x) ^ 2 * (x - (slope ^ 2 - x - x'))) * (p.z : ZMod prime) ^ 9 *
      (q.z : ZMod prime) ^ 9 * hSlope

theorem Located.affine?_eq (hp : Located p x y) : p.affine? = some (x.val, y.val) := by
  have hInverse : ((inverse prime p.z : Nat) : ZMod prime) = (p.z : ZMod prime)⁻¹ :=
    cast_inverse (by decide) hp.finite
  have hX : p.x * (inverse prime p.z * inverse prime p.z % prime) % prime = x.val := by
    refine eq_val_of_cast (Nat.mod_lt _ prime_prime.pos) ?_
    simp only [ZMod.natCast_mod, Nat.cast_mul, hInverse, hp.x_eq]
    field_simp [hp.finite]
  have hY : p.y * (inverse prime p.z * inverse prime p.z % prime) % prime *
      inverse prime p.z % prime = y.val := by
    refine eq_val_of_cast (Nat.mod_lt _ prime_prime.pos) ?_
    simp only [ZMod.natCast_mod, Nat.cast_mul, hInverse, hp.y_eq]
    field_simp [hp.finite]
  simp only [Point.affine?, if_neg hp.z_ne_zero, hX, hY]

end Located

/-! ## Sums and multiples -/

/-- A projective form of an element. -/
inductive Represents (p : Point) : Element → Prop
  | zero (hz : p.z = 0) : Represents p 0
  | some {x y : ZMod prime} {h : curve.Nonsingular x y} (hp : Located p x y) :
      Represents p (.some x y h)

section Represents

variable {p q : Point} {P Q : Element}

theorem Represents.double (hp : Represents p P) : Represents p.double (P + P) := by
  cases hp with
  | zero hz =>
    rw [Point.double, if_pos (Or.inl hz), add_zero]
    exact .zero rfl
  | @some x y h hp =>
    by_cases hFlat : y = 0
    · have hSelf : y = curve.negY x y := by rw [negY_eq, hFlat, neg_zero]
      rw [Point.double, if_pos (Or.inr (hp.y_eq_zero_iff.mpr hFlat)),
        WeierstrassCurve.Affine.Point.add_self_of_Y_eq hSelf]
      exact .zero rfl
    · have hLine : ¬(x = x ∧ y = -y) := fun hEq => by
        have hTwice : 2 * y = 0 := by linear_combination hEq.2
        exact mul_ne_zero (two_ne_zero (by decide)) hFlat hTwice
      obtain ⟨slope, hTangent, -, h'', hSum⟩ := some_add_some h h hLine
      rw [hSum]
      exact .some (hp.double hFlat (hTangent rfl))

theorem Represents.add (hp : Represents p P) (hq : Represents q Q) :
    Represents (p.add q) (P + Q) := by
  cases hp with
  | zero hz =>
    rw [Point.add, if_pos hz, zero_add]
    exact hq
  | @some x y h hp =>
    cases hq with
    | zero hz =>
      rw [Point.add, if_neg hp.z_ne_zero, if_pos hz, add_zero]
      exact .some hp
    | @some x' y' h' hq =>
      by_cases hx : x = x'
      · subst hx
        rw [hp.add_of_x_eq hq]
        by_cases hy : y = y'
        · subst hy
          rw [if_pos rfl]
          exact (Represents.some hp).double
        · have hOpposite := (WeierstrassCurve.Affine.Y_eq_of_X_eq h.1 h'.1 rfl).resolve_left hy
          rw [if_neg hy, WeierstrassCurve.Affine.Point.add_of_Y_eq rfl hOpposite]
          exact .zero rfl
      · obtain ⟨slope, -, hSecant, h'', hSum⟩ :=
          some_add_some h h' fun hLine => hx hLine.1
        rw [hSum]
        exact .some (hp.add hq hx (hSecant hx))

/-- **Multiples.** -/
theorem Represents.mul {n : Nat} (hp : Represents p P) (hSize : n < 2 ^ 256) :
    Represents (Point.mul n p) (n • P) := by
  have hStep : ∀ (n : Nat) (acc : Point) (bit : Bool), Represents acc (n • P) →
      Represents (if bit then acc.double.add p else acc.double) ((2 * n + bit.toNat) • P) := by
    intro n acc bit hAcc
    have hTwice := hAcc.double
    rw [← two_nsmul, smul_smul] at hTwice
    cases bit with
    | false =>
      rw [if_neg Bool.false_ne_true, Bool.toNat_false, Nat.add_zero]
      exact hTwice
    | true =>
      rw [if_pos rfl, Bool.toNat_true, succ_nsmul]
      exact hTwice.add hp
  have hZero : Represents .zero (0 • P) := by
    rw [zero_nsmul]
    exact .zero rfl
  exact foldl_bits_of_lt (R := fun n acc => Represents acc (n • P)) hStep hZero hSize

theorem Represents.eq_zero (hp : Represents p P) (hz : p.z = 0) : P = 0 := by
  cases hp with
  | zero => rfl
  | some hp => exact absurd hz hp.z_ne_zero

end Represents

/-! ## The generator -/

theorem nonsingular_generator :
    curve.Nonsingular (Point.generator.x : ZMod prime) (Point.generator.y : ZMod prime) := by
  have hEquation : ((Point.generator.y ^ 2 : Nat) : ZMod prime) =
      ((Point.generator.x ^ 3 + 7 : Nat) : ZMod prime) := by
    rw [ZMod.natCast_eq_natCast_iff']
    decide +kernel
  rw [nonsingular_iff]
  exact_mod_cast hEquation

def base : Element :=
  .some _ _ nonsingular_generator

theorem represents_generator : Represents .generator base := by
  refine .some ⟨?_, by decide, ?_, ?_⟩
  · exact cast_ne_zero (by decide) (by decide)
  · simp [Point.generator]
  · simp [Point.generator]

/-- **The order of the generator.** -/
theorem addOrderOf_base : addOrderOf base = order := by
  have hMultiple := represents_generator.mul (n := order) (by decide)
  have hClosed : order • base = 0 := hMultiple.eq_zero (by decide +kernel)
  exact addOrderOf_eq_prime hClosed (WeierstrassCurve.Affine.Point.some_ne_zero _)

theorem nsmul_base_eq_iff {n m : Nat} : n • base = m • base ↔ (n : ZMod order) = m := by
  rw [nsmul_eq_nsmul_iff_modEq, addOrderOf_base, ZMod.natCast_eq_natCast_iff]

/-! ## Points with a given first coordinate -/

section Lift

variable {x y : ZMod prime} {n : Nat}

theorem prime_odd : prime % 2 = 1 := by
  decide

/-- Of a residue and its negative one is even and one is odd. -/
theorem odd_neg_iff (hy : y ≠ 0) : (-y).val % 2 = 1 ↔ y.val % 2 = 0 := by
  have hSmall := y.val_lt
  have hOdd := prime_odd
  rw [ZMod.neg_val, if_neg hy]
  omega

/-- The root that powers give. -/
theorem powMod_root {square : Nat} (h : (square : ZMod prime) = y ^ 2) :
    powMod prime square ((prime + 1) / 4) = y.val ∨
      powMod prime square ((prime + 1) / 4) = (-y).val := by
  have hReduced : powMod prime square ((prime + 1) / 4) < prime := by
    rw [powMod_eq (by decide)]
    exact Nat.mod_lt _ prime_prime.pos
  have hCast : ((powMod prime square ((prime + 1) / 4) : Nat) : ZMod prime) =
      (y ^ 2) ^ ((prime + 1) / 4) := by
    rw [powMod_eq (by decide), ZMod.natCast_mod, Nat.cast_pow, h]
  rcases root_cases (by decide) y with hRoot | hRoot
  · exact Or.inl (eq_val_of_cast hReduced (hCast.trans hRoot))
  · exact Or.inr (eq_val_of_cast hReduced (hCast.trans hRoot))

/-- **Lifting.** The point above a first coordinate whose second one has the given parity. -/
theorem lift?_eq (h : curve.Nonsingular x y) (hx : (n : ZMod prime) = x) (hy : y ≠ 0) :
    Point.lift? n (decide (y.val % 2 = 1)) = some ⟨n, y.val, 1⟩ := by
  have hSquare : (((n * n % prime * n + 7) % prime : Nat) : ZMod prime) = y ^ 2 := by
    rw [nonsingular_iff.mp h, ZMod.natCast_mod, Nat.cast_add, Nat.cast_mul, ZMod.natCast_mod,
      Nat.cast_mul, hx, Nat.cast_ofNat]
    ring
  have hReduced : (n * n % prime * n + 7) % prime < prime := Nat.mod_lt _ prime_prime.pos
  unfold Point.lift?
  generalize (n * n % prime * n + 7) % prime = square at hSquare hReduced
  have hCheck : ∀ z : ZMod prime, z ^ 2 = y ^ 2 → z.val * z.val % prime = square := by
    intro z hz
    rw [← Nat.mod_eq_of_lt hReduced, ← ZMod.natCast_eq_natCast_iff', Nat.cast_mul,
      ZMod.natCast_zmod_val, hSquare, ← sq, hz]
  rcases powMod_root hSquare with hRoot | hRoot
  · have hParity : (y.val % 2 = 1) = (decide (y.val % 2 = 1) = true) := by simp
    simp only [hRoot, hCheck y rfl, if_true, if_pos hParity]
  · have hParity : ¬((-y).val % 2 = 1) = (decide (y.val % 2 = 1) = true) := by
      rw [eq_iff_iff, decide_eq_true_eq, odd_neg_iff hy]
      omega
    have hMinus : minus 0 (-y).val = y.val := by
      refine eq_val_of_cast (minus_lt _ _) ?_
      rw [← Nat.mod_eq_of_lt (-y).val_lt, cast_minus_mod, ZMod.natCast_zmod_val, Nat.cast_zero,
        zero_sub, neg_neg]
    simp only [hRoot, hCheck (-y) (neg_sq y), if_true, if_neg hParity, hMinus]

theorem located_lifted (hx : (n : ZMod prime) = x) : Located ⟨n, y.val, 1⟩ x y := by
  refine ⟨?_, y.val_lt, ?_, ?_⟩
  · rw [Nat.cast_one]
    exact one_ne_zero
  · simp [hx]
  · simp

end Lift

end TokenBridge.Secp256k1

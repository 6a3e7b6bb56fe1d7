import TokenBridge.Curve.Ecdsa
import TokenBridge.Proofs.Curve.Points

/-!
# Signatures tell their signer

A signature of the digest `z` by the secret key `d` is made from a one-time point `k • base`, whose
first coordinate is `r`. It satisfies `z + r * d = s * k` modulo the order, and the public key that
is recovered from it is the one whose secret key solves this equation. So signing and recovering
agree, and they disagree under the other parity, which stands for the one-time number `-k`.

* `keyAt?_injective`, `publicKey?_eq`: public keys are elements;
* `Told.publicKey?_eq_iff`: which key is recovered;
* `exists_signed_of_sign?`: what a made signature says;
* `Signed.publicKey?_eq`, `Signed.publicKey?_ne`: the signer is told by one parity only.
-/

namespace TokenBridge.Secp256k1

/-! ## Public keys -/

/-- The public key at an element, if that is not the neutral one. -/
def keyAt? : Element → Option PublicKey
  | .zero => none
  | .some x y _ => some ⟨.ofNat 32 x.val, .ofNat 32 y.val⟩

variable {P Q : Element} {p : Point} {x y : ZMod prime} {h : curve.Nonsingular x y}

theorem ofNat_val_injective {a b : ZMod prime}
    (hWord : (Word.ofNat 32 a.val : Word 32) = .ofNat 32 b.val) : a = b := by
  have hSize : prime < Nat.pow 256 32 := by decide
  have hValue := congrArg Word.toNat hWord
  rw [Word.toNat_ofNat (Nat.lt_trans a.val_lt hSize),
    Word.toNat_ofNat (Nat.lt_trans b.val_lt hSize)] at hValue
  exact ZMod.val_injective prime hValue

theorem keyAt?_injective : Function.Injective keyAt? := by
  intro P Q hKey
  cases P with
  | zero =>
    cases Q with
    | zero => rfl
    | some => cases hKey
  | some x y =>
    cases Q with
    | zero => cases hKey
    | some x' y' =>
      have hWords := Option.some.inj hKey
      obtain rfl := ofNat_val_injective (congrArg PublicKey.x hWords)
      obtain rfl := ofNat_val_injective (congrArg PublicKey.y hWords)
      rfl

theorem Represents.ofPoint?_eq (hp : Represents p P) : PublicKey.ofPoint? p = keyAt? P := by
  cases hp with
  | zero hz =>
    rw [PublicKey.ofPoint?, Point.affine?, if_pos hz]
    rfl
  | some hp =>
    rw [PublicKey.ofPoint?, hp.affine?_eq]
    rfl

theorem publicKey?_eq (key : SecretKey) : key.publicKey? = keyAt? (key.toNat • base) :=
  (represents_generator.mul (Nat.lt_trans key.isLt (by decide))).ofPoint?_eq

/-- A multiple of the generator is neutral only if the order divides the factor. -/
theorem exists_nsmul_base {k : Nat} (hk : (k : ZMod order) ≠ 0) :
    ∃ x y h, k • base = .some x y h := by
  cases hPoint : k • base with
  | zero =>
    have hNeutral : k • base = 0 • base := hPoint.trans (zero_nsmul base).symm
    exact absurd (nsmul_base_eq_iff.mp hNeutral) (by rwa [Nat.cast_zero])
  | some x y h => exact ⟨x, y, h, rfl⟩

theorem exists_publicKey? (key : SecretKey) : ∃ holder, key.publicKey? = some holder := by
  obtain ⟨x, y, h, hPoint⟩ := exists_nsmul_base (cast_ne_zero key.pos key.isLt)
  rw [publicKey?_eq, hPoint]
  exact ⟨_, rfl⟩

/-! ## One-time points -/

/-- The order is odd, so no multiple of the generator is its own opposite. -/
theorem y_ne_zero {k : Nat} (hPoint : k • base = .some x y h) : y ≠ 0 := by
  intro hFlat
  have hSelf : y = curve.negY x y := by rw [negY_eq, hFlat, neg_zero]
  have hTwice : (2 * k) • base = 0 • base := by
    rw [mul_nsmul', hPoint, two_nsmul, WeierstrassCurve.Affine.Point.add_self_of_Y_eq hSelf,
      zero_nsmul]
  have hCast := nsmul_base_eq_iff.mp hTwice
  rw [Nat.cast_mul, Nat.cast_zero, Nat.cast_ofNat] at hCast
  have hZero := (mul_eq_zero.mp hCast).resolve_left (two_ne_zero (by decide))
  have hNeutral : k • base = 0 • base := nsmul_base_eq_iff.mpr (by rw [hZero, Nat.cast_zero])
  rw [hPoint, zero_nsmul] at hNeutral
  exact WeierstrassCurve.Affine.Point.some_ne_zero h hNeutral

theorem exists_opposite {k : Nat} (hk : k ≤ order) (hPoint : k • base = .some x y h) :
    ∃ h', (order - k) • base = .some x (-y) h' := by
  have hSum : k • base + (order - k) • base = 0 := by
    rw [← add_nsmul, Nat.add_sub_cancel' hk, ← addOrderOf_base, addOrderOf_nsmul_eq_zero]
  rw [← neg_eq_of_add_eq_zero_right hSum, hPoint, WeierstrassCurve.Affine.Point.neg_some, ← negY_eq]
  exact ⟨_, rfl⟩

theorem cast_order_sub {k : Nat} (hk : k ≤ order) :
    ((order - k : Nat) : ZMod order) = -(k : ZMod order) := by
  rw [Nat.cast_sub hk, ZMod.natCast_self, zero_sub]

/-! ## Recovering -/

variable {key : SecretKey} {sig : Recoverable} {digest : Digest} {k : Nat}

/-- The parts of a signature that tell its one-time point. -/
structure Told (sig : Recoverable) (k : Nat) : Prop where
  r : 0 < sig.r ∧ sig.r < order
  low : sig.s ≤ order / 2
  point : ∃ x y h, k • base = .some x y h ∧ (sig.r : ZMod prime) = x ∧
    sig.odd = decide (y.val % 2 = 1)

theorem Told.unit (hTold : Told sig k) : (sig.r : ZMod order) ≠ 0 :=
  cast_ne_zero hTold.r.1 hTold.r.2

/-- **Which key is recovered.** The one whose secret key solves the equation of the signature. -/
theorem Told.publicKey?_eq_iff (hTold : Told sig k) (d : Nat) :
    sig.publicKey? digest = keyAt? (d • base) ↔
      (digest.toNat + sig.r * d : ZMod order) = sig.s * k := by
  obtain ⟨x, y, h, hPoint, hr, hOdd⟩ := hTold.point
  have hLift := lift?_eq h hr (y_ne_zero hPoint)
  have hForm : Represents ⟨sig.r, y.val, 1⟩ (k • base) := hPoint ▸ .some (located_lifted hr)
  have hOpen : ¬order / 2 < sig.s := not_lt.mpr hTold.low
  have hSize : ∀ n, n % order < 2 ^ 256 := fun n =>
    Nat.lt_trans (Nat.mod_lt n prime_order.pos) (by decide)
  have hSum := (represents_generator.mul (hSize ((order - digest.toNat % order) % order *
    inverse order sig.r))).add (hForm.mul (hSize (sig.s * inverse order sig.r)))
  have hInverse : ((inverse order sig.r : Nat) : ZMod order) = (sig.r : ZMod order)⁻¹ :=
    cast_inverse (by decide) hTold.unit
  rw [Recoverable.publicKey?, if_neg hOpen, hOdd, hLift, Option.bind_eq_bind, Option.bind_some,
    hSum.ofPoint?_eq, keyAt?_injective.eq_iff, smul_smul, ← add_nsmul, nsmul_base_eq_iff]
  simp only [Nat.cast_add, Nat.cast_mul, ZMod.natCast_mod, hInverse,
    cast_order_sub (Nat.mod_lt digest.toNat prime_order.pos).le]
  have hUnit := hTold.unit
  constructor
  · intro hSolved
    rw [← hSolved]
    field_simp
    ring
  · intro hEquation
    field_simp
    linear_combination -hEquation

/-- The other parity stands for the opposite one-time number. -/
theorem Told.opposite (hTold : Told sig k) (hk : k ≤ order) :
    Told { sig with odd := !sig.odd } (order - k) := by
  obtain ⟨x, y, h, hPoint, hr, hOdd⟩ := hTold.point
  obtain ⟨h', hOpposite⟩ := exists_opposite hk hPoint
  refine ⟨hTold.r, hTold.low, x, -y, h', hOpposite, hr, ?_⟩
  have hParity := odd_neg_iff (y_ne_zero hPoint)
  rw [hOdd, ← decide_not, decide_eq_decide, hParity]
  omega

/-! ## Signing -/

/-- The first coordinate of the one-time point is below the order, so that the signature tells
it. -/
def SecretKey.Unreduced (key : SecretKey) (digest : Digest) : Prop :=
  ∀ k ∈ Drbg.draw? 64 (.start key.toNat digest.toNat), ∀ c ∈ (Point.mul k .generator).affine?,
    c.1 < order

theorem draw?_bounds {fuel : Nat} {g : Drbg} (hDraw : Drbg.draw? fuel g = some k) :
    0 < k ∧ k < order := by
  induction fuel generalizing g with
  | zero => cases hDraw
  | succ fuel ih =>
    rw [Drbg.draw?] at hDraw
    split at hDraw
    · rename_i hRange
      exact Option.some.inj hDraw ▸ hRange
    · exact ih hDraw

theorem exists_affine?_mul (hk : 0 < k ∧ k < order) :
    ∃ x y h, k • base = .some x y h ∧
      (Point.mul k .generator).affine? = some (x.val, y.val) := by
  obtain ⟨x, y, h, hPoint⟩ := exists_nsmul_base (cast_ne_zero hk.1 hk.2)
  have hForm := represents_generator.mul (Nat.lt_trans hk.2 (by decide))
  rw [hPoint] at hForm
  cases hForm with
  | some hp => exact ⟨x, y, h, hPoint, hp.affine?_eq⟩

theorem cast_inverse_mul {n : Nat} (hk : (k : ZMod order) ≠ 0) :
    ((inverse order k * (n % order) % order : Nat) : ZMod order) * k = n := by
  have hInverse : ((inverse order k : Nat) : ZMod order) = (k : ZMod order)⁻¹ :=
    cast_inverse (by decide) hk
  rw [ZMod.natCast_mod, Nat.cast_mul, ZMod.natCast_mod, hInverse]
  field_simp

/-- A signature of a digest by a secret key, made with a one-time number. -/
structure Signed (key : SecretKey) (digest : Digest) (sig : Recoverable) (k : Nat) : Prop
    extends Told sig k where
  oneTime : 0 < k ∧ k < order
  s_pos : 0 < sig.s
  equation : (digest.toNat + sig.r * key.toNat : ZMod order) = sig.s * k

/-- **What a made signature says.** -/
theorem exists_signed_of_sign? (hMade : key.sign? digest = some sig)
    (hUnreduced : key.Unreduced digest) : ∃ k, Signed key digest sig k := by
  rw [SecretKey.sign?] at hMade
  obtain ⟨k, hDraw, hMade⟩ := Option.bind_eq_some_iff.mp hMade
  obtain ⟨c, hCoordinates, hMade⟩ := Option.bind_eq_some_iff.mp hMade
  have hk := draw?_bounds hDraw
  have hFirst := hUnreduced k hDraw c hCoordinates
  obtain ⟨x, y, h, hPoint, hAffine⟩ := exists_affine?_mul hk
  obtain rfl := Option.some.inj (hAffine.symm.trans hCoordinates)
  simp only [Nat.mod_eq_of_lt hFirst] at hMade
  have hEquation := cast_inverse_mul (n := digest.toNat + x.val * key.toNat)
    (cast_ne_zero hk.1 hk.2)
  have hSmall := Nat.mod_lt (inverse order k * ((digest.toNat + x.val * key.toNat) % order))
    prime_order.pos
  rw [Nat.cast_add, Nat.cast_mul] at hEquation
  generalize inverse order k * ((digest.toNat + x.val * key.toNat) % order) % order = s
    at hMade hEquation hSmall
  have hr : (x.val : ZMod prime) = x := ZMod.natCast_zmod_val x
  split at hMade
  · cases hMade
  · rename_i hNonzero
    have hPos : 0 < x.val ∧ 0 < s := by omega
    split at hMade
    · rename_i hLow
      cases hMade
      exact ⟨k, ⟨⟨hPos.1, hFirst⟩, hLow, x, y, h, hPoint, hr, rfl⟩, hk, hPos.2, hEquation.symm⟩
    · -- the upper half is folded down, which turns the one-time number around
      rename_i hHigh
      cases hMade
      have hRange : 0 < order - k ∧ order - k < order := by omega
      have hLow : order - s ≤ order / 2 ∧ 0 < order - s := by omega
      obtain ⟨h', hOpposite⟩ := exists_opposite hk.2.le hPoint
      refine ⟨order - k, ⟨⟨hPos.1, hFirst⟩, hLow.1, x, -y, h', hOpposite, hr, ?_⟩, hRange,
        hLow.2, ?_⟩
      · rw [decide_eq_decide, odd_neg_iff (y_ne_zero hPoint)]
      · rw [cast_order_sub hk.2.le, cast_order_sub hSmall.le, neg_mul_neg]
        exact hEquation.symm

/-! ## The signer -/

/-- **The signer is recovered.** -/
theorem Signed.publicKey?_eq (hSigned : Signed key digest sig k) :
    sig.publicKey? digest = key.publicKey? := by
  rw [Secp256k1.publicKey?_eq, hSigned.publicKey?_eq_iff]
  exact hSigned.equation

/-- **The other parity tells another key or none.** -/
theorem Signed.publicKey?_ne (hSigned : Signed key digest sig k) :
    Recoverable.publicKey? { sig with odd := !sig.odd } digest ≠ key.publicKey? := by
  have hSmall : sig.s < order := Nat.lt_of_le_of_lt hSigned.low (by decide)
  rw [Secp256k1.publicKey?_eq, Ne, (hSigned.opposite hSigned.oneTime.2.le).publicKey?_eq_iff,
    hSigned.equation, cast_order_sub hSigned.oneTime.2.le]
  intro hEqual
  have hTwice : 2 * ((sig.s : ZMod order) * k) = 0 := by linear_combination hEqual
  have hProduct := (mul_eq_zero.mp hTwice).resolve_left (two_ne_zero (by decide))
  rcases mul_eq_zero.mp hProduct with hZero | hZero
  · exact cast_ne_zero hSigned.s_pos hSmall hZero
  · exact cast_ne_zero hSigned.oneTime.1 hSigned.oneTime.2 hZero

end TokenBridge.Secp256k1

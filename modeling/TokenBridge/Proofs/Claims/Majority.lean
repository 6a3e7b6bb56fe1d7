import Mathlib.Algebra.Ring.Nat
import Mathlib.Data.List.Nodup
import Mathlib.Data.List.Perm.Subperm
import TokenBridge.Proofs.Bridge.Handling
import TokenBridge.Proofs.Table.Values

/-!
# Majorities

The threshold is at least one half and has to be exceeded, and a validator's power is part of what
is bonded. So of two parts of the validators at most one carries.

* `Registry.sum_powerOf_le`: different bonded validators have together at most the bonded power;
* `Submission`, `Registry.weight`: the power behind a fingerprint among some submitted claims;
* `Registry.weight_add_weight_le`, `Threshold.not_both_met`: two fingerprints are not both met.
-/

namespace TokenBridge

open scoped List

/-! ## Thresholds -/

namespace Threshold

variable {t : Threshold} {attested attested' total : Nat}

theorem half_of_validate (h : t.validate = .ok ()) :
    t.denominator.toNat ≤ t.numerator.toNat * 2 := by
  rw [validate] at h
  by_cases hZero : t.denominator = 0
  · rw [if_pos hZero] at h
    cases h
  · rw [if_neg hZero] at h
    by_cases hRange : t.numerator.toNat * 2 < t.denominator.toNat ∨
        t.denominator.toNat < t.numerator.toNat
    · rw [if_pos hRange] at h
      cases h
    · exact Nat.not_lt.mp fun hLow => hRange (Or.inl hLow)

theorem isMet_iff :
    t.isMet attested total = true ↔
      total ≠ 0 ∧ total * t.numerator.toNat < attested * t.denominator.toNat := by
  rw [isMet, Bool.and_eq_true, decide_eq_true_iff, decide_eq_true_iff]

theorem isMet_mono (hLe : attested ≤ attested') (h : t.isMet attested total = true) :
    t.isMet attested' total = true := by
  obtain ⟨hTotal, hMore⟩ := isMet_iff.mp h
  exact isMet_iff.mpr ⟨hTotal, Nat.lt_of_lt_of_le hMore (Nat.mul_le_mul_right _ hLe)⟩

theorem isMet_zero (t : Threshold) (total : Nat) : t.isMet 0 total = false := by
  rw [Bool.eq_false_iff]
  intro h
  have hMore := (isMet_iff.mp h).2
  rw [Nat.zero_mul] at hMore
  exact absurd hMore (Nat.not_lt_zero _)

/-- Two parts of the total do not both exceed the fraction. -/
theorem not_both_met (hValid : t.validate = .ok ()) (hParts : attested + attested' ≤ total)
    (h : t.isMet attested total = true) : t.isMet attested' total = false := by
  rw [Bool.eq_false_iff]
  intro h'
  have hFirst := (isMet_iff.mp h).2
  have hSecond := (isMet_iff.mp h').2
  have hWhole : total * t.denominator.toNat ≤
      total * t.numerator.toNat + total * t.numerator.toNat :=
    calc total * t.denominator.toNat
      _ ≤ total * (t.numerator.toNat * 2) := Nat.mul_le_mul_left _ (half_of_validate hValid)
      _ = total * t.numerator.toNat + total * t.numerator.toNat := by
        rw [← Nat.mul_assoc, Nat.mul_two]
  have hSum : attested * t.denominator.toNat + attested' * t.denominator.toNat ≤
      total * t.denominator.toNat := by
    rw [← Nat.add_mul]
    exact Nat.mul_le_mul_right _ hParts
  omega

end Threshold

/-- What valid settings are relied on for: the id fits in a word, the threshold is a majority, and a
batch has room. -/
theorem Params.of_validate {p : Params} (h : p.validate = .ok ()) :
    (Text.utf8 p.bridgeId.toList).length ≤ 32 ∧ p.threshold.validate = .ok () ∧
      p.batchSize ≠ 0 := by
  rw [validate] at h
  by_cases hNone : (Text.utf8 p.bridgeId.toList).length = 0
  · rw [if_pos hNone] at h
    cases h
  rw [if_neg hNone] at h
  by_cases hLong : 32 < (Text.utf8 p.bridgeId.toList).length
  · rw [if_pos hLong] at h
    cases h
  rw [if_neg hLong] at h
  obtain ⟨_, hThreshold, h⟩ := Bridge.checked_bind_eq_ok.mp h
  by_cases hSize : p.batchSize = 0
  · rw [if_pos hSize] at h
    cases h
  exact ⟨Nat.le_of_not_lt hLong, hThreshold, hSize⟩

/-! ## Bonded power -/

namespace Registry

variable {r : Registry} {validator : ValidatorAddress}

theorem mem_bonded (h : r.isBonded validator = true) :
    (validator, r.powerOf validator) ∈ r.bonded := by
  rw [isBonded, Option.any_eq_true] at h
  obtain ⟨standing, hFound, hBonded⟩ := h
  rw [powerOf, hFound, bonded, Option.filter_some, if_pos hBonded]
  exact List.mem_map_of_mem (f := fun entry : ValidatorAddress × Standing =>
    (entry.1, entry.2.power)) (List.mem_filter.mpr ⟨Table.mem_entries_iff.mpr hFound, hBonded⟩)

/-- Different bonded validators have together at most the bonded power. -/
theorem sum_powerOf_le {validators : List ValidatorAddress} (hNodup : validators.Nodup)
    (hBonded : ∀ v ∈ validators, r.isBonded v = true) :
    (validators.map fun v => (r.powerOf v).toNat).sum ≤ r.exactPower := by
  have hPairs : (validators.map fun v => (v, r.powerOf v)).Nodup :=
    List.Nodup.of_map Prod.fst (by rwa [List.map_map, Function.comp_def, List.map_id'])
  have hSubset : (validators.map fun v => (v, r.powerOf v)) ⊆ r.bonded := by
    intro pair hMem
    obtain ⟨v, hV, rfl⟩ := List.mem_map.mp hMem
    exact mem_bonded (hBonded v hV)
  obtain ⟨part, hSame, hPart⟩ := List.subperm_of_subset hPairs hSubset
  obtain ⟨others, hWhole⟩ := hPart.exists_perm_append
  have hSum :=
    ((hWhole.trans (hSame.append_right others)).map fun entry => entry.2.toNat).sum_nat
  rw [List.map_append, List.sum_append, List.map_map] at hSum
  exact Nat.le_trans (Nat.le_add_right _ _) (Nat.le_of_eq hSum.symm)

theorem toNat_totalPower (h : r.exactPower < UInt64.size) : r.totalPower.toNat = r.exactPower := by
  have hCut : min r.exactPower (UInt64.size - 1) = r.exactPower :=
    Nat.min_eq_left (Nat.le_sub_one_of_lt h)
  rw [totalPower, hCut]
  exact Nat.mod_eq_of_lt h

end Registry

/-! ## Submitted claims -/

structure Submission where
  account : AccountAddress
  claim : Claim

namespace Registry

variable {r : Registry} {l l' : List Submission} {d d' : Digest} {x : Submission}

/-- The power behind a submission, that of the validator for which the account acts. -/
def strength (r : Registry) (x : Submission) : Nat :=
  ((r.resolve x.account).map fun v => (r.powerOf v).toNat).getD 0

/-- The power behind a fingerprint among some submissions. -/
def weight (r : Registry) (l : List Submission) (details : Digest) : Nat :=
  ((l.filter fun x => x.claim.fingerprint == details).map r.strength).sum

theorem weight_perm (h : l ~ l') (d : Digest) : r.weight l d = r.weight l' d :=
  ((h.filter _).map _).sum_nat

theorem weight_append (r : Registry) (l l' : List Submission) (d : Digest) :
    r.weight (l ++ l') d = r.weight l d + r.weight l' d := by
  rw [weight, List.filter_append, List.map_append, List.sum_append, weight, weight]

theorem weight_singleton (r : Registry) (x : Submission) (d : Digest) :
    r.weight [x] d = if x.claim.fingerprint = d then r.strength x else 0 := by
  by_cases hSame : x.claim.fingerprint = d
  · simp [weight, hSame]
  · simp [weight, hSame]

/-- Submissions of two fingerprints are different ones. -/
theorem weight_add_weight_le (hOther : d ≠ d') (l : List Submission) :
    r.weight l d + r.weight l d' ≤ (l.map r.strength).sum := by
  induction l with
  | nil => exact Nat.le_refl 0
  | cons x l ih =>
    rw [← List.singleton_append, weight_append, weight_append, weight_singleton, weight_singleton,
      List.singleton_append, List.map_cons, List.sum_cons]
    by_cases hFirst : x.claim.fingerprint = d
    · have hSecond : x.claim.fingerprint ≠ d' := fun h => hOther (hFirst.symm.trans h)
      rw [if_pos hFirst, if_neg hSecond]
      omega
    · rw [if_neg hFirst]
      split <;> omega

theorem exists_validators
    (hVoters : ∀ x ∈ l, ∃ v, r.resolve x.account = some v ∧ r.isBonded v = true) :
    ∃ validators : List ValidatorAddress,
      (l.map fun x => r.resolve x.account) = validators.map some ∧
      (∀ v ∈ validators, r.isBonded v = true) ∧
      l.map r.strength = validators.map fun v => (r.powerOf v).toNat := by
  induction l with
  | nil => exact ⟨[], rfl, fun _ h => absurd h List.not_mem_nil, rfl⟩
  | cons x l ih =>
    obtain ⟨⟨v, hResolve, hFirst⟩, hRest⟩ := List.forall_mem_cons.mp hVoters
    obtain ⟨validators, hMap, hBonded, hStrength⟩ := ih hRest
    refine ⟨v :: validators, ?_, List.forall_mem_cons.mpr ⟨hFirst, hBonded⟩, ?_⟩
    · rw [List.map_cons, hResolve, hMap, List.map_cons]
    · rw [List.map_cons, hStrength, strength, hResolve]
      rfl

/-- Submissions for different bonded validators have together at most the bonded power. -/
theorem sum_strength_le
    (hVoters : ∀ x ∈ l, ∃ v, r.resolve x.account = some v ∧ r.isBonded v = true)
    (hNodup : (l.map fun x => r.resolve x.account).Nodup) :
    (l.map r.strength).sum ≤ r.exactPower := by
  obtain ⟨validators, hValidators, hBonded, hStrength⟩ := exists_validators hVoters
  rw [hValidators] at hNodup
  rw [hStrength]
  exact sum_powerOf_le hNodup.of_map hBonded

end Registry

end TokenBridge

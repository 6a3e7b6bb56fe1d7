import Mathlib.Algebra.Order.BigOperators.Group.Finset
import TokenBridge.Proofs.Valsets.Distance
import TokenBridge.Proofs.Valsets.Weights

/-!
# How far signer sets drift

Between sets that do not exceed the scale the distance is what it is meant to be: the moved power in
hundredths of a percent, rounded down, with nothing cut off. Moved power obeys the triangle
inequality, so a drift in two steps goes unnoticed by at most the one unit that is lost in rounding.

* `powerAt_eq`, `sum_powerAt`: the power of a key is that of its member, and together they are the
  total power;
* `moved_le`, `moved_triangle`: bounds for the moved power;
* `Scaled`: the sets that do not exceed the scale; `toNat_distance`: their distance is not cut off;
* `distance_of_scaled`: all of it.
-/

namespace TokenBridge.Valset

open scoped BigOperators

variable {u v w : Valset} {key : EthAddress} {m : Member}

/-! ## Powers -/

theorem find?_powers_of_mem (h : (v.members.map Member.address).Nodup) (hMem : m ∈ v.members) :
    v.powers.find? m.address = some m.power.toNat := by
  have hPerm :=
    (Table.perm_entries_build_iff Member.address (fun m => m.power.toNat) v.members).mpr h
  refine Table.mem_entries_iff.mp (hPerm.mem_iff.mpr ?_)
  exact List.mem_map_of_mem (f := fun m : Member => (m.address, m.power.toNat)) hMem

theorem powerAt_eq (h : (v.members.map Member.address).Nodup) (key : EthAddress) :
    v.powerAt key = ((v.powerOf key).getD 0).toNat := by
  cases hPower : v.powerOf key with
  | some power =>
    have hMem : ⟨power, key⟩ ∈ v.members := (powerOf_eq_some_iff h).mp hPower
    rw [powerAt, find?_powers_of_mem h hMem]
    rfl
  | none =>
    have hMissing : key ∉ v.keys := by
      intro hKey
      obtain ⟨⟨power, _⟩, hMem, rfl⟩ := List.mem_map.mp (List.mem_toFinset.mp hKey)
      rw [(powerOf_eq_some_iff h).mpr hMem] at hPower
      cases hPower
    rw [powerAt_of_notMem hMissing]
    rfl

theorem sum_powerAt (h : (v.members.map Member.address).Nodup) :
    ∑ key ∈ v.keys, v.powerAt key = v.totalPower := by
  rw [keys, List.sum_toFinset _ h, List.map_map]
  refine congrArg List.sum (List.map_congr_left fun m hMem => ?_)
  rw [Function.comp_apply, powerAt, find?_powers_of_mem h hMem]
  rfl

/-! ## Moved power -/

/-- Keys that neither set has do not count. -/
theorem moved_eq_sum_of_subset {s : Finset EthAddress} (hv : v.keys ⊆ s) (hw : w.keys ⊆ s) :
    v.moved w = ∑ key ∈ s, Nat.dist (v.powerAt key) (w.powerAt key) := by
  rw [moved_eq_sum]
  refine Finset.sum_subset (Finset.union_subset hv hw) fun key _ hMissing => ?_
  rw [Finset.notMem_union] at hMissing
  rw [powerAt_of_notMem hMissing.1, powerAt_of_notMem hMissing.2, Nat.dist_self]

theorem moved_triangle (u v w : Valset) : u.moved w ≤ u.moved v + v.moved w := by
  have hu : u.keys ⊆ u.keys ∪ v.keys ∪ w.keys :=
    Finset.subset_union_left.trans Finset.subset_union_left
  have hv : v.keys ⊆ u.keys ∪ v.keys ∪ w.keys :=
    Finset.subset_union_right.trans Finset.subset_union_left
  have hw : w.keys ⊆ u.keys ∪ v.keys ∪ w.keys := Finset.subset_union_right
  rw [moved_eq_sum_of_subset hu hw, moved_eq_sum_of_subset hu hv, moved_eq_sum_of_subset hv hw,
    ← Finset.sum_add_distrib]
  exact Finset.sum_le_sum fun key _ => Nat.dist.triangle_inequality _ _ _

/-- The keys of a set, among others, have its total power. -/
theorem sum_powerAt_of_subset {s : Finset EthAddress} (h : (v.members.map Member.address).Nodup)
    (hs : v.keys ⊆ s) : ∑ key ∈ s, v.powerAt key = v.totalPower := by
  rw [← sum_powerAt h]
  exact (Finset.sum_subset hs fun key _ hMissing => powerAt_of_notMem hMissing).symm

theorem moved_le (hv : (v.members.map Member.address).Nodup)
    (hw : (w.members.map Member.address).Nodup) : v.moved w ≤ v.totalPower + w.totalPower := by
  calc v.moved w
    _ = ∑ key ∈ v.keys ∪ w.keys, Nat.dist (v.powerAt key) (w.powerAt key) := moved_eq_sum v w
    _ ≤ ∑ key ∈ v.keys ∪ w.keys, (v.powerAt key + w.powerAt key) :=
      Finset.sum_le_sum fun key _ => by
        rw [Nat.dist]
        omega
    _ = v.totalPower + w.totalPower := by
      rw [Finset.sum_add_distrib, sum_powerAt_of_subset hv Finset.subset_union_left,
        sum_powerAt_of_subset hw Finset.subset_union_right]

/-! ## Distances -/

/-- A signer set that was made, of members that do not exceed the scale together. -/
structure Scaled (v : Valset) : Prop where
  made : ∃ nonce members, make nonce members = .ok v
  total : v.totalPower ≤ powerScale

theorem Scaled.nodup (h : v.Scaled) : (v.members.map Member.address).Nodup := by
  obtain ⟨nonce, members, hMake⟩ := h.made
  obtain ⟨⟨-, -, hNodup⟩, -, hPerm, -⟩ := make_eq_ok_iff_ordered.mp hMake
  exact (hPerm.map _).nodup_iff.mpr hNodup

theorem Scaled.moved_le_scale (hv : v.Scaled) (hw : w.Scaled) :
    v.moved w ≤ 2 * powerScale := by
  have hMoved := moved_le hv.nodup hw.nodup
  have hTotal := hv.total
  have hTotal' := hw.total
  omega

/-- The scaled moved power is at most two hundred percent. -/
theorem Scaled.bips_le (hv : v.Scaled) (hw : w.Scaled) :
    v.moved w * 10000 / powerScale ≤ 20000 := by
  have hMoved := hv.moved_le_scale hw
  -- as a numeral the scale makes `omega` recurse too deeply
  generalize powerScale = scale at hMoved ⊢
  exact Nat.div_le_of_le_mul (by omega)

/-- The distance is not cut off. -/
theorem toNat_distance (hv : v.Scaled) (hw : w.Scaled) :
    (v.distance w).toNat = v.moved w * 10000 / powerScale := by
  have hRoom : v.moved w * 10000 / powerScale < UInt64.size :=
    Nat.lt_of_le_of_lt (hv.bips_le hw) (by decide)
  rw [distance, UInt64.toNat_ofNat_of_lt' hRoom]

/-- Two parts that are rounded down lose less than two units. -/
theorem div_le_div_add_div_add_one {a b c d : Nat} (hd : 0 < d) (h : a ≤ b + c) :
    a / d ≤ b / d + c / d + 1 := by
  have hb := Nat.lt_mul_div_succ b hd
  have hc := Nat.lt_mul_div_succ c hd
  have hSum : a < (b / d + 1 + (c / d + 1)) * d := by
    rw [Nat.add_mul, Nat.mul_comm _ d, Nat.mul_comm _ d]
    omega
  have hDiv := (Nat.div_lt_iff_lt_mul hd).mpr hSum
  omega

/-- **Distances.** The distance between signer sets that do not exceed the scale is the sum, over
the keys of either set, of the absolute differences of the powers, in hundredths of a percent of the
scale and rounded down; nothing is cut off. It is the same both ways, zero between sets with the
same members, and at most two hundred percent. By way of a third set it is at most one unit more. -/
theorem distance_of_scaled (hu : u.Scaled) (hv : v.Scaled) (hw : w.Scaled) :
    (u.distance v).toNat =
      (∑ key ∈ u.keys ∪ v.keys,
        Nat.dist ((u.powerOf key).getD 0).toNat ((v.powerOf key).getD 0).toNat) * 10000 /
          powerScale ∧
    u.distance v = v.distance u ∧
    (u.members = v.members → u.distance v = 0) ∧
    (u.distance v).toNat ≤ 20000 ∧
    (u.distance w).toNat ≤ (u.distance v).toNat + (v.distance w).toNat + 1 := by
  refine ⟨?_, distance_comm u v, distance_eq_zero, ?_, ?_⟩
  · rw [toNat_distance hu hv, moved_eq_sum]
    simp only [powerAt_eq hu.nodup, powerAt_eq hv.nodup]
  · rw [toNat_distance hu hv]
    exact hu.bips_le hv
  · rw [toNat_distance hu hw, toNat_distance hu hv, toNat_distance hv hw]
    refine div_le_div_add_div_add_one (by decide) ?_
    rw [← Nat.add_mul]
    exact Nat.mul_le_mul_right 10000 (moved_triangle u v w)

/-- Two keys with half of the power each. -/
def halves : Valset :=
  ⟨⟨1⟩, [⟨2147483647, ⟨.ofNat 20 1⟩⟩, ⟨2147483647, ⟨.ofNat 20 2⟩⟩]⟩

/-- The first key has all of it. -/
def firstOnly : Valset :=
  ⟨⟨2⟩, [⟨4294967295, ⟨.ofNat 20 1⟩⟩]⟩

/-- A third key has all of it. -/
def thirdOnly : Valset :=
  ⟨⟨3⟩, [⟨4294967295, ⟨.ofNat 20 3⟩⟩]⟩

/-- Half of the power moves to the first key, and all of it to the third one: what is lost in
rounding is seen on the way from the two halves to the third key. -/
theorem distance_of_halves :
    (halves.distance firstOnly).toNat = 10000 ∧ (firstOnly.distance thirdOnly).toNat = 20000 ∧
    (halves.distance thirdOnly).toNat = 19999 ∧
    halves.distance firstOnly = firstOnly.distance halves ∧
    (firstOnly.distance thirdOnly).toNat ≤
      (firstOnly.distance halves).toNat + (halves.distance thirdOnly).toNat + 1 := by
  have hHalves : halves.Scaled :=
    ⟨⟨⟨1⟩, halves.members, make_eq_ok_iff_ordered.mpr (by decide +kernel)⟩, by decide⟩
  have hFirst : firstOnly.Scaled :=
    ⟨⟨⟨2⟩, firstOnly.members, make_eq_ok_iff_ordered.mpr (by decide +kernel)⟩, by decide⟩
  have hThird : thirdOnly.Scaled :=
    ⟨⟨⟨3⟩, thirdOnly.members, make_eq_ok_iff_ordered.mpr (by decide +kernel)⟩, by decide⟩
  obtain ⟨-, hSame, -, -, -⟩ := distance_of_scaled hHalves hFirst hThird
  obtain ⟨-, -, -, -, hStep⟩ := distance_of_scaled hFirst hHalves hThird
  exact ⟨by decide +kernel, by decide +kernel, by decide +kernel, hSame, hStep⟩

end TokenBridge.Valset

import Mathlib.Algebra.BigOperators.Ring.List
import Mathlib.Algebra.Order.BigOperators.Group.List
import Mathlib.Algebra.Order.Ring.Nat
import TokenBridge.Proofs.Valsets.Snapshots

/-!
# Weights of the signers

The contract counts signatures against a fixed scale, and each signer's share of the bonded power is
rounded down to it. So the weights never exceed the scale, and what is lost is less than one unit
for each validator.

* `normalizePower_bounds`, `Registry.share_bounds`: a share is rounded down to the next unit;
* `powerOf_eq_of_holder`: the weight that a key holder has in a signer set;
* `totalPower_le`, `lt_totalPower_add`: the weights of a snapshot together;
* `weights_of_snapshot`: all of it.
-/

namespace TokenBridge

/-! ## Shares -/

section Shares

variable {power power' total : UInt64}

theorem toNat_normalizePower (hTotal : 0 < total.toNat) (hPart : power.toNat ≤ total.toNat) :
    (normalizePower power total).toNat = power.toNat * powerScale / total.toNat := by
  have hSome : total ≠ 0 := by
    intro hZero
    simp [hZero] at hTotal
  have hScale : power.toNat * powerScale / total.toNat ≤ powerScale :=
    Nat.div_le_of_le_mul (Nat.mul_le_mul_right powerScale hPart)
  have hRoom : powerScale < UInt64.size := by decide
  unfold normalizePower
  rw [if_neg hSome, Nat.min_eq_left hScale]
  exact UInt64.toNat_ofNat_of_lt' (Nat.lt_of_le_of_lt hScale hRoom)

/-- A share is rounded down to the next unit of the scale. -/
theorem normalizePower_bounds (hTotal : 0 < total.toNat) (hPart : power.toNat ≤ total.toNat) :
    (normalizePower power total).toNat * total.toNat ≤ power.toNat * powerScale ∧
      power.toNat * powerScale < ((normalizePower power total).toNat + 1) * total.toNat := by
  rw [toNat_normalizePower hTotal hPart]
  constructor
  · exact Nat.div_mul_le_self _ _
  · rw [Nat.mul_comm (_ + 1)]
    exact Nat.lt_mul_div_succ _ hTotal

theorem normalizePower_mono (hTotal : 0 < total.toNat) (hPart : power'.toNat ≤ total.toNat)
    (hLe : power ≤ power') : normalizePower power total ≤ normalizePower power' total := by
  have hLe : power.toNat ≤ power'.toNat := UInt64.le_iff_toNat_le.mp hLe
  rw [UInt64.le_iff_toNat_le, toNat_normalizePower hTotal (Nat.le_trans hLe hPart),
    toNat_normalizePower hTotal hPart]
  exact Nat.div_le_div_right (Nat.mul_le_mul_right powerScale hLe)

end Shares

namespace Registry

variable {r : Registry} {validator : ValidatorAddress} {power power' : UInt64}

theorem le_exactPower (h : (validator, power) ∈ r.bonded) : power.toNat ≤ r.exactPower :=
  List.le_sum_of_mem
    (List.mem_map_of_mem (f := fun entry : ValidatorAddress × UInt64 => entry.2.toNat) h)

/-- The shares of the bonded validators are shares in the exact sum, as long as it fits. -/
theorem share_bounds (hSome : 0 < r.exactPower) (hRoom : r.exactPower < UInt64.size)
    (h : (validator, power) ∈ r.bonded) :
    (normalizePower power r.totalPower).toNat * r.exactPower ≤ power.toNat * powerScale ∧
      power.toNat * powerScale <
        ((normalizePower power r.totalPower).toNat + 1) * r.exactPower := by
  have hPart := le_exactPower h
  rw [← toNat_totalPower hRoom] at hSome hPart ⊢
  exact normalizePower_bounds hSome hPart

theorem share_mono (hSome : 0 < r.exactPower) (hRoom : r.exactPower < UInt64.size)
    (h : (validator, power') ∈ r.bonded) (hLe : power ≤ power') :
    normalizePower power r.totalPower ≤ normalizePower power' r.totalPower := by
  have hPart := le_exactPower h
  rw [← toNat_totalPower hRoom] at hSome hPart
  exact normalizePower_mono hSome hPart hLe

end Registry

namespace Valset

variable {v : Valset} {key : EthAddress} {weight : UInt64}

theorem powerOf_eq_some_iff (h : (v.members.map Member.address).Nodup) :
    v.powerOf key = some weight ↔ ⟨weight, key⟩ ∈ v.members := by
  unfold powerOf
  rw [Option.map_eq_some_iff]
  constructor
  · rintro ⟨m, hFound, rfl⟩
    have hKey : m.address = key := by simpa using List.find?_some hFound
    rw [← hKey]
    exact List.mem_of_find?_eq_some hFound
  · intro hMem
    cases hFound : v.members.find? fun m => m.address == key with
    | none =>
      have hMiss := List.find?_eq_none.mp hFound _ hMem
      exact absurd (beq_self_eq_true key) hMiss
    | some m =>
      have hKey : m.address = key := by simpa using List.find?_some hFound
      have hSame := List.inj_on_of_nodup_map h (List.mem_of_find?_eq_some hFound) hMem hKey
      exact ⟨m, rfl, congrArg Member.power hSame⟩

end Valset

namespace Bridge

variable {b : Bridge} {v : Valset} {key : EthAddress} {power : UInt64}

/-! ## Members -/

theorem Holder.unique {power' : UInt64} (hApart : b.KeysApart) (h : b.Holder key power)
    (h' : b.Holder key power') : power = power' := by
  obtain ⟨validator, hBonded, hKey⟩ := h
  obtain ⟨validator', hBonded', hKey'⟩ := h'
  have hSame : validator = validator' := hApart _ hBonded _ hBonded' key hKey hKey'
  have hNodup : (b.registry.bonded.map Prod.fst).Nodup :=
    List.pairwise_map.mpr (pairwise_bonded b.registry)
  exact congrArg Prod.snd (List.inj_on_of_nodup_map hNodup hBonded hBonded' hSame)

/-- A key holder has its share in the signer set, where one that is left out has nothing. -/
theorem powerOf_eq_of_holder (hApart : b.KeysApart) (hMembers : v.members.Perm b.snapshot)
    (h : b.Holder key power) :
    (v.powerOf key).getD 0 = normalizePower power b.registry.totalPower := by
  have hNodup : (v.members.map Member.address).Nodup :=
    (hMembers.map _).nodup_iff.mpr (nodup_snapshot hApart)
  cases hPower : v.powerOf key with
  | some weight =>
    have hMem := (Valset.powerOf_eq_some_iff hNodup).mp hPower
    obtain ⟨power', hHolder, hWeight, -⟩ := mem_snapshot.mp (hMembers.mem_iff.mp hMem)
    rw [h.unique hApart hHolder]
    exact hWeight
  | none =>
    by_contra hSome
    have hMem : ⟨normalizePower power b.registry.totalPower, key⟩ ∈ v.members :=
      hMembers.mem_iff.mpr (mem_snapshot.mpr
        ⟨power, h, rfl, UInt64.pos_iff_ne_zero.mpr fun hZero => hSome hZero.symm⟩)
    rw [(Valset.powerOf_eq_some_iff hNodup).mpr hMem] at hPower
    cases hPower

/-! ## Sums -/

/-- The weight that a bonded validator adds to the snapshot. -/
def weightOf (b : Bridge) (entry : ValidatorAddress × UInt64) : Nat :=
  ((b.member? entry.1 entry.2).map fun m => m.power.toNat).getD 0

theorem weightOf_le (b : Bridge) (entry : ValidatorAddress × UInt64) :
    b.weightOf entry ≤ (normalizePower entry.2 b.registry.totalPower).toNat := by
  unfold weightOf
  cases hMember : b.member? entry.1 entry.2 with
  | none => exact Nat.zero_le _
  | some m =>
    have hWeight := (member?_eq_some.mp hMember).2.1
    simp [hWeight]

/-- A key holder adds its whole share. -/
theorem weightOf_of_key {entry : ValidatorAddress × UInt64} (h : b.store.key? entry.1 = some key) :
    b.weightOf entry = (normalizePower entry.2 b.registry.totalPower).toNat := by
  unfold weightOf member?
  rw [h]
  by_cases hZero : normalizePower entry.2 b.registry.totalPower = 0
  · simp [hZero]
  · simp [hZero]

theorem totalPower_eq_sum (hMembers : v.members.Perm b.snapshot) :
    v.totalPower = (b.registry.bonded.map b.weightOf).sum := by
  have hPerm : v.totalPower = (b.snapshot.map fun m => m.power.toNat).sum :=
    (hMembers.map _).sum_nat
  rw [hPerm, snapshot_eq]
  induction b.registry.bonded with
  | nil => rfl
  | cons entry rest ih =>
    rw [List.map_cons, List.sum_cons, ← ih, weightOf, List.filterMap_cons]
    cases b.member? entry.1 entry.2 with
    | none => simp
    | some m => simp

theorem totalPower_le (hSome : 0 < b.registry.exactPower)
    (hRoom : b.registry.exactPower < UInt64.size) (hMembers : v.members.Perm b.snapshot) :
    v.totalPower ≤ powerScale := by
  have hShares : v.totalPower * b.registry.exactPower ≤ b.registry.exactPower * powerScale :=
    calc v.totalPower * b.registry.exactPower
      _ = (b.registry.bonded.map fun entry => b.weightOf entry * b.registry.exactPower).sum := by
        rw [totalPower_eq_sum hMembers, List.sum_map_mul_right]
      _ ≤ (b.registry.bonded.map fun entry => entry.2.toNat * powerScale).sum := by
        apply List.sum_le_sum
        intro entry hMem
        have hShare := (Registry.share_bounds hSome hRoom hMem).1
        exact Nat.le_trans (Nat.mul_le_mul_right _ (b.weightOf_le entry)) hShare
      _ = b.registry.exactPower * powerScale := List.sum_map_mul_right _ _ _
  rw [Nat.mul_comm] at hShares
  exact Nat.le_of_mul_le_mul_left hShares hSome

/-- Where all bonded validators have keys, each loses less than one unit of the scale. -/
theorem lt_totalPower_add (hSome : 0 < b.registry.exactPower)
    (hRoom : b.registry.exactPower < UInt64.size) (hMembers : v.members.Perm b.snapshot)
    (hKeys : ∀ entry ∈ b.registry.bonded, (b.store.key? entry.1).isSome) :
    powerScale < v.totalPower + b.registry.bonded.length := by
  have hBonded : 0 < b.registry.bonded.length := by
    rw [List.length_pos_iff]
    intro hNone
    simp [Registry.exactPower, hNone] at hSome
  have hShares : b.registry.exactPower * powerScale + b.registry.bonded.length ≤
      (v.totalPower + b.registry.bonded.length) * b.registry.exactPower :=
    calc b.registry.exactPower * powerScale + b.registry.bonded.length
      _ = (b.registry.bonded.map fun entry => entry.2.toNat * powerScale + 1).sum := by
        rw [List.sum_map_add, List.sum_map_mul_right, List.map_const', List.sum_replicate_nat,
          Nat.mul_one]
        rfl
      _ ≤ (b.registry.bonded.map fun entry =>
            (b.weightOf entry + 1) * b.registry.exactPower).sum := by
        apply List.sum_le_sum
        intro entry hMem
        obtain ⟨key, hKey⟩ := Option.isSome_iff_exists.mp (hKeys entry hMem)
        have hShare := (Registry.share_bounds hSome hRoom hMem).2
        rwa [← weightOf_of_key hKey] at hShare
      _ = (v.totalPower + b.registry.bonded.length) * b.registry.exactPower := by
        rw [List.sum_map_mul_right, List.sum_map_add, List.map_const', List.sum_replicate_nat,
          Nat.mul_one, totalPower_eq_sum hMembers]
  have hLess : powerScale * b.registry.exactPower <
      (v.totalPower + b.registry.bonded.length) * b.registry.exactPower := by
    rw [Nat.mul_comm powerScale]
    omega
  exact Nat.lt_of_mul_lt_mul_right hLess

/-! ## Signer sets of a snapshot -/

/-- **Faithful weights.** Let the bonded power be positive and fit in 64 bits, and let no two bonded
validators have one key. Some members there, and no key zero, the snapshot makes up a signer set.
The weights of this set, or of the snapshot itself, are together at most the scale; each is the
share of a key holder, rounded down; a higher power never has a lower weight, where a key that is
left out weighs nothing; a key holder is left out only if its share is less than a unit; and if all
bonded validators have keys, less than one unit is lost for each of them. -/
theorem weights_of_snapshot (b : Bridge) (hSome : 0 < b.registry.exactPower)
    (hRoom : b.registry.exactPower < UInt64.size) (hApart : b.KeysApart) :
    (b.snapshot ≠ [] → (∀ key power, b.Holder key power → key.isZero = false) →
      ∀ nonce, ∃ v, Valset.make nonce b.snapshot = .ok v) ∧
    ∀ v : Valset, (v.members = b.snapshot ∨ Valset.make v.nonce b.snapshot = .ok v) →
      v.totalPower ≤ powerScale ∧
      (∀ m ∈ v.members, (∃ power, b.Holder m.address power) ∧
        ∀ power, b.Holder m.address power →
          m.power.toNat * b.registry.exactPower ≤ power.toNat * powerScale ∧
          power.toNat * powerScale < (m.power.toNat + 1) * b.registry.exactPower) ∧
      (∀ key power key' power', b.Holder key power → b.Holder key' power' → power ≤ power' →
        (v.powerOf key).getD 0 ≤ (v.powerOf key').getD 0) ∧
      (∀ key power, b.Holder key power → v.powerOf key = none →
        power.toNat * powerScale < b.registry.exactPower) ∧
      ((∀ entry ∈ b.registry.bonded, (b.store.key? entry.1).isSome) →
        powerScale < v.totalPower + b.registry.bonded.length) := by
  constructor
  · intro hMembers hKeys nonce
    apply Valset.exists_make_iff.mpr
    refine ⟨hMembers, ?_, nodup_snapshot hApart⟩
    intro m hMem
    obtain ⟨power, hHolder, -, hPower⟩ := mem_snapshot.mp hMem
    exact ⟨hPower, hKeys m.address power hHolder⟩
  · intro v hSet
    have hMembers : v.members.Perm b.snapshot := by
      rcases hSet with hSame | hMake
      · rw [hSame]
      · exact Valset.perm_of_make hMake
    refine ⟨totalPower_le hSome hRoom hMembers, ?_, ?_, ?_, ?_⟩
    · intro m hMem
      obtain ⟨power, hHolder, hPower, -⟩ := mem_snapshot.mp (hMembers.mem_iff.mp hMem)
      refine ⟨⟨power, hHolder⟩, ?_⟩
      intro power' hHolder'
      have hSame : power = power' := hHolder.unique hApart hHolder'
      obtain ⟨validator, hBonded, -⟩ := hHolder
      rw [hPower, ← hSame]
      exact Registry.share_bounds hSome hRoom hBonded
    · intro key power key' power' hHolder hHolder' hLe
      rw [powerOf_eq_of_holder hApart hMembers hHolder,
        powerOf_eq_of_holder hApart hMembers hHolder']
      obtain ⟨validator, hBonded, -⟩ := hHolder'
      exact Registry.share_mono hSome hRoom hBonded hLe
    · intro key power hHolder hOut
      have hNothing := powerOf_eq_of_holder hApart hMembers hHolder
      rw [hOut, Option.getD_none] at hNothing
      obtain ⟨validator, hBonded, -⟩ := hHolder
      have hLess := (Registry.share_bounds hSome hRoom hBonded).2
      simpa [← hNothing] using hLess
    · intro hKeys
      exact lt_totalPower_add hSome hRoom hMembers hKeys

/-- Three bonded validators of power one, two and four have keys. -/
def threeHolders : Bridge :=
  { (default : Bridge) with
    registry := ((Registry.empty.bond ⟨.ofNat 20 1⟩ 1 ⟨.ofNat 20 11⟩).bond
      ⟨.ofNat 20 2⟩ 2 ⟨.ofNat 20 12⟩).bond ⟨.ofNat 20 3⟩ 4 ⟨.ofNat 20 13⟩
    store := ((Store.empty.putKey ⟨.ofNat 20 1⟩ ⟨.ofNat 20 7⟩).putKey
      ⟨.ofNat 20 2⟩ ⟨.ofNat 20 8⟩).putKey ⟨.ofNat 20 3⟩ ⟨.ofNat 20 9⟩ }

def threeWeights : Valset :=
  ⟨⟨1⟩, [⟨2454267025, ⟨.ofNat 20 9⟩⟩, ⟨1227133512, ⟨.ofNat 20 8⟩⟩, ⟨613566756, ⟨.ofNat 20 7⟩⟩]⟩

/-- Two units of the scale are lost, which is the most that three members can lose. -/
theorem weights_of_threeHolders :
    Valset.make ⟨1⟩ threeHolders.snapshot = .ok threeWeights ∧
      threeWeights.totalPower + 2 = powerScale ∧ threeWeights.totalPower ≤ powerScale ∧
      powerScale < threeWeights.totalPower + 3 := by
  have hMake : Valset.make ⟨1⟩ threeHolders.snapshot = .ok threeWeights :=
    Valset.make_eq_ok_iff_ordered.mpr (by decide +kernel)
  obtain ⟨-, hWeights⟩ := weights_of_snapshot threeHolders (by decide +kernel) (by decide +kernel)
    (by decide +kernel)
  obtain ⟨hLe, -, -, -, hMore⟩ := hWeights threeWeights (Or.inr hMake)
  exact ⟨hMake, by decide, hLe, hMore (by decide +kernel)⟩

end Bridge

end TokenBridge

import Mathlib.Algebra.BigOperators.Group.Finset.Basic
import Mathlib.Algebra.Ring.Nat
import Mathlib.Data.Nat.Dist
import TokenBridge.Proofs.Table.Building
import TokenBridge.Valset

/-!
# How far signer sets are apart

The power that moves between two signer sets is walked over in two lists: the keys of the first set,
and the keys that only the second one has. Together they are the keys of either set, each once, so
that neither set comes first.

* `powerAt`, `keys`: the power of each key, and the keys that have any;
* `moved_eq_sum`: the moved power is a sum over the keys of either set;
* `distance_comm`, `distance_eq_zero`: what follows for distances.
-/

namespace TokenBridge.Valset

open scoped BigOperators

variable {v w : Valset} {key : EthAddress}

def keys (v : Valset) : Finset EthAddress :=
  (v.members.map Member.address).toFinset

/-- The power of a key; a missing key has none. -/
def powerAt (v : Valset) (key : EthAddress) : Nat :=
  (v.powers.find? key).getD 0

theorem isSome_find?_foldl_insert (l : List Member) (t : Table EthAddress Nat) :
    ((l.foldl (fun t m => t.insert m.address m.power.toNat) t).find? key).isSome ↔
      key ∈ l.map Member.address ∨ (t.find? key).isSome := by
  induction l generalizing t with
  | nil => simp
  | cons first rest ih =>
    rw [List.foldl_cons, ih, Table.find?_insert, List.map_cons, List.mem_cons]
    by_cases hFirst : key = first.address
    · simp [hFirst]
    · simp [hFirst]

theorem isSome_powers_iff : (v.powers.find? key).isSome ↔ key ∈ v.keys := by
  rw [powers, isSome_find?_foldl_insert, keys, List.mem_toFinset]
  simp

theorem powerAt_of_notMem (h : key ∉ v.keys) : v.powerAt key = 0 := by
  rw [← isSome_powers_iff, Option.not_isSome_iff_eq_none] at h
  rw [powerAt, h, Option.getD_none]

theorem mem_keys_iff {t : Table EthAddress Nat} :
    key ∈ (t.entries.map Prod.fst).toFinset ↔ (t.find? key).isSome := by
  rw [List.mem_toFinset, Option.isSome_iff_exists, List.mem_map]
  constructor
  · rintro ⟨⟨key', power⟩, hMem, rfl⟩
    exact ⟨power, Table.mem_entries_iff.mp hMem⟩
  · rintro ⟨power, hFound⟩
    exact ⟨(key, power), Table.mem_entries_iff.mpr hFound, rfl⟩

/-- A sum over the entries of a table is a sum over its keys. -/
theorem sum_entries (t : Table EthAddress Nat) (f : EthAddress → Nat → Nat) :
    (t.entries.map fun entry => f entry.1 entry.2).sum =
      ∑ key ∈ (t.entries.map Prod.fst).toFinset, f key ((t.find? key).getD 0) := by
  rw [List.sum_toFinset _ t.nodup_keys, List.map_map]
  congr 1
  refine List.map_congr_left fun entry hMem => ?_
  have hFound : t.find? entry.1 = some entry.2 := Table.mem_entries_iff.mp hMem
  simp [hFound]

/-- The keys that only the second set has. -/
def added (v w : Valset) : Table EthAddress Nat :=
  w.powers.filter fun key _ => !v.powers.contains key

theorem find?_added (v w : Valset) (key : EthAddress) :
    (added v w).find? key = if key ∈ v.keys then none else w.powers.find? key := by
  apply Option.ext
  intro power
  rw [added, Table.find?_filter, Option.filter_eq_some_iff, Table.contains, Bool.not_eq_true',
    Bool.eq_false_iff, ne_eq, isSome_powers_iff]
  by_cases hOld : key ∈ v.keys
  · simp [hOld]
  · simp [hOld]

/-- **Moved power.** The power that moved between two sets is the sum, over the keys of either set,
of the absolute differences of the powers. -/
theorem moved_eq_sum (v w : Valset) :
    v.moved w = ∑ key ∈ v.keys ∪ w.keys, Nat.dist (v.powerAt key) (w.powerAt key) := by
  have hKept : (v.powers.entries.map fun entry => Nat.dist entry.2 (w.powerAt entry.1)).sum =
      ∑ key ∈ v.keys, Nat.dist (v.powerAt key) (w.powerAt key) := by
    rw [sum_entries v.powers fun key power => Nat.dist power (w.powerAt key)]
    refine Finset.sum_congr ?_ fun key _ => rfl
    ext key
    rw [mem_keys_iff, isSome_powers_iff]
  have hAdded : (added v w).values.sum =
      ∑ key ∈ w.keys \ v.keys, Nat.dist (v.powerAt key) (w.powerAt key) := by
    rw [Table.values, sum_entries (added v w) fun _ power => power]
    refine Finset.sum_congr ?_ fun key hMem => ?_
    · ext key
      rw [mem_keys_iff, Finset.mem_sdiff, ← isSome_powers_iff, find?_added]
      by_cases hOld : key ∈ v.keys
      · simp [hOld]
      · simp [hOld]
    · have hNew := (Finset.mem_sdiff.mp hMem).2
      rw [find?_added, if_neg hNew, powerAt_of_notMem hNew, Nat.dist_zero_left]
      rfl
  calc v.moved w
    _ = (v.powers.entries.map fun entry => Nat.dist entry.2 (w.powerAt entry.1)).sum +
        (added v w).values.sum := rfl
    _ = ∑ key ∈ v.keys ∪ w.keys, Nat.dist (v.powerAt key) (w.powerAt key) := by
      rw [hKept, hAdded, ← Finset.sum_union Finset.disjoint_sdiff,
        Finset.union_sdiff_self_eq_union]

theorem moved_comm (v w : Valset) : v.moved w = w.moved v := by
  rw [moved_eq_sum, moved_eq_sum, Finset.union_comm]
  exact Finset.sum_congr rfl fun key _ => Nat.dist_comm _ _

theorem distance_comm (v w : Valset) : v.distance w = w.distance v := by
  rw [distance, distance, moved_comm]

theorem distance_eq_zero (h : v.members = w.members) : v.distance w = 0 := by
  have hPower (key : EthAddress) : v.powerAt key = w.powerAt key := by
    rw [powerAt, powers, h, ← powers, ← powerAt]
  have hMoved : v.moved w = 0 := by
    rw [moved_eq_sum]
    refine Finset.sum_eq_zero fun key _ => ?_
    rw [hPower, Nat.dist_self]
  rw [distance, hMoved, Nat.zero_mul, Nat.zero_div]
  rfl

end TokenBridge.Valset

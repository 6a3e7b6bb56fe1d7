import TokenBridge.Proofs.Valsets.Distance
import TokenBridge.Proofs.Valsets.Snapshots

/-!
# Updates of the signer set

An update compares the signer set of the moment with the newest stored one, and stores it if the two
are farther apart than the settings allow. Whatever was stored before, the newest set is close to
the validators of the moment afterwards, and while they stay the same there is nothing more to
update.

* `Fresh`: the newest stored set is close enough;
* `updateValset_cases`: what an update does; `updateValset_of_fresh`: when it does nothing;
* `fresh_putValset`, `updateValset_putValset`: a set that was stored a moment ago is close enough;
* `updates_run`: updates along a run.
-/

namespace TokenBridge.Bridge

variable {b b' : Bridge} {v w : Valset} {made : Option Valset}

/-- Of the stored sets there is a newest one, and it is as close to some set as the settings want
it. -/
def Fresh (b : Bridge) (v : Valset) : Prop :=
  ∃ latest ∈ b.store.valsets.values, (∀ w ∈ b.store.valsets.values, w.nonce ≤ latest.nonce) ∧
    latest.distance v ≤ b.params.changeThreshold

theorem fresh_iff (h : b.store.valsets.KeyedBy Valset.nonce) :
    b.Fresh v ↔
      b.store.latestValset?.any (fun latest => v.distance latest ≤ b.params.changeThreshold) := by
  rw [Option.any_eq_true, Fresh]
  simp only [decide_eq_true_iff, Valset.distance_comm v, Store.latestValset?_eq_some_iff h,
    and_assoc]

theorem newestValset_lt_of_currentValset (h : b.currentValset = .ok v) :
    b.store.newestValset < v.nonce :=
  Nat.lt_of_succ_le (Nat.le_of_eq (make_of_currentValset h).2.symm)

/-! ## One update -/

/-- An update does nothing if nobody counts, or if the newest set is close enough to the signer set
of the moment. Otherwise it stores that signer set. -/
theorem updateValset_cases (hKeyed : b.store.valsets.KeyedBy Valset.nonce)
    (h : updateValset b = .ok made b') :
    (b.snapshot = [] ∧ made = none ∧ b' = b) ∨
    ∃ v, b.currentValset = .ok v ∧
      ((b.Fresh v ∧ made = none ∧ b' = b) ∨
        (¬b.Fresh v ∧ made = some v ∧ b' = { b with store := b.store.putValset v })) := by
  cases handled_updateValset h with
  | upToDate hNear =>
    rcases hNear with hNobody | ⟨v, hMake, hNear⟩
    · exact Or.inl ⟨List.isEmpty_iff.mp hNobody, rfl, rfl⟩
    · exact Or.inr ⟨v, hMake, Or.inl ⟨(fresh_iff hKeyed).mpr hNear, rfl, rfl⟩⟩
  | updated hSome hMake hFar hHash =>
    exact Or.inr ⟨_, hMake, Or.inr ⟨fun hFresh => hFar ((fresh_iff hKeyed).mp hFresh), rfl, rfl⟩⟩

theorem updateValset_of_fresh (hKeyed : b.store.valsets.KeyedBy Valset.nonce)
    (hMake : b.currentValset = .ok v) (hFresh : b.Fresh v) :
    updateValset b = .ok none b := by
  unfold updateValset
  rw [get_bind_apply]
  by_cases hNobody : b.snapshot.isEmpty = true
  · rw [if_pos hNobody]
    rfl
  · rw [if_neg hNobody, check_bind_of_ok hMake, if_pos ((fresh_iff hKeyed).mp hFresh)]
    rfl

/-- A set that is stored above the others is close enough to any set with its members. -/
theorem fresh_putValset (hKeyed : b.store.valsets.KeyedBy Valset.nonce)
    (hAbove : b.store.newestValset < v.nonce) (hMembers : v.members = w.members) :
    Fresh { b with store := b.store.putValset v } w := by
  have hLatest := Store.latestValset?_putValset hKeyed hAbove
  obtain ⟨hMem, hTop⟩ := (Store.latestValset?_eq_some_iff (hKeyed.insert v)).mp hLatest
  refine ⟨v, hMem, hTop, ?_⟩
  rw [Valset.distance_eq_zero hMembers]
  exact UInt64.zero_le

/-- After the signer set of the moment was stored, an update does nothing as long as a nonce is
left. -/
theorem updateValset_putValset (hKeyed : b.store.valsets.KeyedBy Valset.nonce)
    (hMake : b.currentValset = .ok v) (hRoom : v.nonce.toNat + 1 < UInt64.size) :
    updateValset { b with store := b.store.putValset v } =
      .ok none { b with store := b.store.putValset v } := by
  obtain ⟨hMade, -⟩ := make_of_currentValset hMake
  have hAbove := newestValset_lt_of_currentValset hMake
  obtain ⟨nonce, hNonce⟩ := following_of_lt hRoom
  -- the snapshot is the same as before, so that the next signer set differs in its nonce only
  obtain ⟨w, hAgain⟩ : ∃ w, Valset.make nonce b.snapshot = .ok w :=
    Valset.exists_make_iff.mpr (Valset.exists_make_iff.mp ⟨v, hMade⟩)
  have hMembers : v.members = w.members := Valset.members_of_make hMade hAgain
  have hNext : nextValsetNonce { b with store := b.store.putValset v } = .ok nonce := by
    rw [← hNonce, ← Store.newestValset_putValset hKeyed hAbove]
    rfl
  have hCurrent : currentValset { b with store := b.store.putValset v } = .ok w :=
    checked_bind_eq_ok.mpr ⟨nonce, hNext, mapError_eq_ok.mpr hAgain⟩
  exact updateValset_of_fresh (hKeyed.insert v) hCurrent (fresh_putValset hKeyed hAbove hMembers)

/-! ## Runs -/

/-- **Updates.** Along a run from an empty store, an update that is not refused leaves things so
that no key holder has a share that counts, or the newest stored set is no farther from the signer
set of the moment than the settings allow. In the second case it has stored and answered with that
signer set, under the nonce after the newest one, if there was no set or the newest one was too far
away, and otherwise has done nothing. Once more it does nothing, and likewise after a request, as
long as no stored set has the largest nonce. -/
theorem updates_run (origin : Bridge) (events : List Event) :
    let b := origin.blank.run events
    (∀ made b', updateValset b = .ok made b' →
      (((∀ key power, b.Holder key power → normalizePower power b.registry.totalPower = 0) ∧
          made = none ∧ b' = b) ∨
        ∃ v, b.currentValset = .ok v ∧ Valset.make v.nonce b'.snapshot = .ok v ∧ b'.Fresh v ∧
          ((¬b.Fresh v ∧ made = some v ∧ v.nonce.toNat = b.store.newestValset.toNat + 1 ∧
              b' = { b with store := b.store.putValset v }) ∨
            (b.Fresh v ∧ made = none ∧ b' = b))) ∧
      ((∀ w ∈ b'.store.valsets.values, w.nonce.toNat < UInt64.size - 1) →
        updateValset b' = .ok none b')) ∧
    (∀ v b', requestValset b = .ok v b' →
      (∀ w ∈ b'.store.valsets.values, w.nonce.toNat < UInt64.size - 1) →
      updateValset b' = .ok none b') := by
  intro b
  have hKeyed : b.store.valsets.KeyedBy Valset.nonce :=
    (canonical_run Store.canonical_empty events).keyed
  -- a set that has just been stored is one of the stored sets
  have hAgain {v : Valset} (hMake : b.currentValset = .ok v)
      (hRoom : ∀ w ∈ (b.store.putValset v).valsets.values, w.nonce.toNat < UInt64.size - 1) :
      updateValset { b with store := b.store.putValset v } =
        .ok none { b with store := b.store.putValset v } := by
    have hStored : (b.store.putValset v).valset? v.nonce = some v := by
      rw [Store.valset?_putValset, if_pos rfl]
    have hLow := hRoom v (Table.mem_values_of_find? hStored)
    exact updateValset_putValset hKeyed hMake (by omega)
  constructor
  · intro made b' hUpdate
    rcases updateValset_cases hKeyed hUpdate with ⟨hNobody, rfl, rfl⟩ | ⟨v, hMake, hDone⟩
    · exact ⟨Or.inl ⟨snapshot_eq_nil.mp hNobody, rfl, rfl⟩, fun _ => hUpdate⟩
    · obtain ⟨hMade, hNonce⟩ := make_of_currentValset hMake
      rcases hDone with ⟨hFresh, rfl, rfl⟩ | ⟨hDrifted, rfl, rfl⟩
      · exact ⟨Or.inr ⟨v, hMake, hMade, hFresh, Or.inr ⟨hFresh, rfl, rfl⟩⟩, fun _ => hUpdate⟩
      · have hAfter := fresh_putValset hKeyed (newestValset_lt_of_currentValset hMake) rfl
        exact ⟨Or.inr ⟨v, hMake, hMade, hAfter, Or.inl ⟨hDrifted, rfl, hNonce, rfl⟩⟩,
          hAgain hMake⟩
  · intro v b' hRequest
    cases handled_requestValset hRequest with
    | requested hSome hMake hHash => exact hAgain hMake

end TokenBridge.Bridge

import TokenBridge.Proofs.Claims.Tallies

/-!
# What events write

Tallies and the cursors of claims apart, an event writes to few tables of the store, and each of
the writes has been checked before.

* `Store.Effect`: what the effect of a claim does to the store;
* `Written`, `written_of_step`: what an event does to the store;
* `params_run`: the settings stay.
-/

namespace TokenBridge

/-- What the effect of a claim does to the store. -/
inductive Store.Effect (s : Store) : Store → Prop
  | none : s.Effect s
  | batch {contract : EthAddress} {nonce : Nonce} : s.Effect (s.executeBatch contract nonce)
  | valset {nonce : Nonce} : s.Effect (s.executeValset nonce)

namespace Bridge

variable {b b' : Bridge} {event : Event} {validator : ValidatorAddress} {power : UInt64}
  {claim : Claim} {outcome : ClaimOutcome}

/-! ## Checks -/

theorem valsetAt_eq_ok {nonce : Nonce} {v : Valset} (h : b.valsetAt nonce = .ok v) :
    b.store.valset? nonce = some v := by
  rw [valsetAt] at h
  cases hFound : b.store.valset? nonce with
  | none =>
    rw [hFound] at h
    cases h
  | some found =>
    rw [hFound] at h
    exact congrArg some (Except.ok.inj h)

theorem batchAt_eq_ok {contract : EthAddress} {nonce : Nonce} {batch : Batch}
    (h : b.batchAt contract nonce = .ok batch) : b.store.batch? contract nonce = some batch := by
  rw [batchAt] at h
  cases hFound : b.store.batch? contract nonce with
  | none =>
    rw [hFound] at h
    cases h
  | some found =>
    rw [hFound] at h
    exact congrArg some (Except.ok.inj h)

theorem checkFree_eq_ok {key : EthAddress} (h : b.checkFree validator key = .ok ()) :
    b.store.otherOwner? validator key = none := by
  rw [checkFree] at h
  cases hOwner : b.store.otherOwner? validator key with
  | none => rfl
  | some owner =>
    rw [hOwner] at h
    cases h

theorem currentValset_eq_ok {v : Valset} (h : b.currentValset = .ok v) :
    ∃ nonce members, Valset.make nonce members = .ok v := by
  obtain ⟨nonce, -, hMake⟩ := checked_bind_eq_ok.mp h
  exact ⟨nonce, b.snapshot, mapError_eq_ok.mp hMake⟩

/-! ## Writes -/

/-- What an event does to the store, tallies and the cursors of claims apart. -/
inductive Written (b : Bridge) : Store → Prop
  | kept : Written b b.store
  | judged {s : Store} {attestations : Table AttestationKey Attestation}
      {claimCursors : Table ClaimKind Nonce} (hEffect : b.store.Effect s) :
      Written b { s with attestations, claimCursors }
  | valsetConfirmed {c : ValsetConfirm} {v : Valset}
      (hValset : b.store.valset? c.nonce = some v) :
      Written b ((b.store.putValsetConfirm c).setConfirmCursor c.validator .valset c.nonce)
  | batchConfirmed {c : BatchConfirm} {batch : Batch}
      (hBatch : b.store.batch? c.contract c.nonce = some batch) :
      Written b
        ((b.store.putBatchConfirm c).setConfirmCursor c.validator (.batch c.contract) c.nonce)
  | registered {validator : ValidatorAddress} {key : EthAddress}
      (hKey : key.requireNonZero = .ok ())
      (hFree : b.store.otherOwner? validator key = none) :
      Written b (b.store.putKey validator key)
  | queued {tx : Transfer} : Written b (b.store.queue tx)
  | built {batch : Batch} : Written b (b.store.takeBatch batch)
  | valsetMade {nonce : Nonce} {members : List Member} {v : Valset}
      (hMake : Valset.make nonce members = .ok v) : Written b (b.store.putValset v)

theorem Enacted.effect (h : Enacted b claim b') : b.store.Effect b'.store := by
  cases h with
  | credited hMint => exact .none
  | batch => exact .batch
  | valset => exact .valset

/-- A judged claim has one effect on the store, tallies and the cursors of claims apart. -/
theorem Judged.exists_effect (h : Judged b validator power claim outcome b') :
    ∃ s attestations claimCursors, b.store.Effect s ∧
      b'.store = { s with attestations, claimCursors } := by
  rcases h.claims_cases with ⟨-, rfl⟩ | ⟨-, a, -, hStore, -, -⟩ |
    ⟨-, -, a, m, -, -, -, hEnacted, rfl⟩
  · exact ⟨b'.store, _, _, .none, rfl⟩
  · exact ⟨b.store, _, _, .none, hStore⟩
  · exact ⟨m.store, _, _, hEnacted.effect, rfl⟩

theorem Judged.written (h : Judged b validator power claim outcome b') : Written b b'.store := by
  obtain ⟨s, attestations, claimCursors, hEffect, hStore⟩ := h.exists_effect
  rw [hStore]
  exact .judged hEffect

/-- **What an event writes.** -/
theorem written_of_step (h : Step b event b') : Written b b'.store := by
  cases h with
  | handled h =>
    cases h with
    | @claimed _ _ _ _ _ m hValid hSigner hJudged =>
      show Written b m.store
      exact hJudged.written
    | valsetConfirmed hConfirmer hValset => exact .valsetConfirmed (valsetAt_eq_ok hValset)
    | batchConfirmed hConfirmer hBatch => exact .batchConfirmed (batchAt_eq_ok hBatch)
    | registered hBonded hKey hSignature hFree => exact .registered hKey (checkFree_eq_ok hFree)
    | queued => exact .queued
    | built => exact .built
    | requested hSome hMake =>
      obtain ⟨nonce, members, hMade⟩ := currentValset_eq_ok hMake
      exact .valsetMade hMade
    | updated hSome hMake =>
      obtain ⟨nonce, members, hMade⟩ := currentValset_eq_ok hMake
      exact .valsetMade hMade
    | _ => exact .kept
  | _ => exact .kept

/-! ## Settings -/

theorem Enacted.params_eq (h : Enacted b claim b') : b'.params = b.params := by
  cases h with
  | _ => rfl

theorem Judged.params_eq (h : Judged b validator power claim outcome b') :
    b'.params = b.params := by
  cases h with
  | finalized _ _ _ _ _ hEnacted => exact hEnacted.params_eq
  | resumed _ _ _ _ _ hEnacted => exact hEnacted.params_eq
  | _ => rfl

theorem params_step (h : Step b event b') : b'.params = b.params := by
  cases h with
  | handled h =>
    cases h with
    | claimed hValid hSigner hJudged => exact hJudged.params_eq
    | _ => rfl
  | _ => rfl

theorem params_run (b : Bridge) (events : List Event) : (b.run events).params = b.params :=
  run_induction (P := fun b' => b'.params = b.params)
    (fun b' event h => (params_step (step_after b' event)).trans h) rfl events

end Bridge

end TokenBridge

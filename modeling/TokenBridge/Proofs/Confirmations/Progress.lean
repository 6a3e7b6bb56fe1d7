import TokenBridge.Proofs.Signatures.Recovery
import TokenBridge.Proofs.Store.Thinning
import TokenBridge.Proofs.Withdrawals.Custody

/-!
# What events do to confirmations

An event thins out what is to be confirmed, adds a signer set or a batch under a nonce that was
never used, or stores one confirmation: the next one of its validator, by a signature that was
verified.

* `Progressed`, `progressed_of_step`: what an event does;
* `Store.Shelved`: the invariants of the store that confirmations rest on, kept by `shelved_step`.
-/

namespace TokenBridge

/-! ## The store -/

namespace Store

/-- Signer sets, batches and confirmations stand under their keys; batches are not above the last
nonce given out, and confirmations are of what is stored. -/
structure Shelved (s : Store) : Prop where
  housed : s.Housed
  canonical : s.Canonical
  referred : s.Referred

theorem shelved_empty : empty.Shelved :=
  ⟨housed_empty, canonical_empty, referred_empty⟩

theorem Shelved.thins_effect {s s' : Store} (h : s.Shelved) (hEffect : s.Effect s') :
    s.Thins s' := by
  cases hEffect with
  | none => exact .refl s
  | batch => exact thins_executeBatch h.housed.shelf _ _
  | valset => exact thins_executeValset h.canonical.keyed _

end Store

namespace Bridge

variable {b b' : Bridge} {event : Event} {validator : ValidatorAddress}

/-- A signature that was accepted and read is stored with the key that made it. -/
theorem recover_of_accepted {hash : Digest} {signature : List UInt8} {key : EthAddress}
    {sig : EthSignature} (hSignature : checkSignature hash signature key = .ok ())
    (hParts : readSignature signature = .ok sig) :
    EthSignature.recover hash sig.toBytes = .ok key := by
  rw [EthSignature.toBytes_of_ofBytes (mapError_eq_ok.mp hParts)]
  exact EthSignature.verify_eq_ok.mp (mapError_eq_ok.mp hSignature)

/-! ## Events -/

/-- What an event does to what is to be confirmed and to what was. -/
inductive Progressed (b : Bridge) : Store → Prop
  | thinned {s : Store} (hThins : b.store.Thins s) : Progressed b s
  | valsetMade {v : Valset} (hNonce : following b.store.newestValset = .ok v.nonce) :
      Progressed b (b.store.putValset v)
  | batchMade {batch : Batch} (hNonce : following b.store.lastBatchNonce = .ok batch.nonce) :
      Progressed b (b.store.takeBatch batch)
  | valsetConfirmed {c : ValsetConfirm} {v : Valset} {hash : Digest}
      (hValset : b.store.valset? c.nonce = some v)
      (hTurn : b.checkTurn c.validator .valset (b.store.valsets.values.map Valset.nonce) c.nonce =
        .ok ())
      (hHash : b.checkpointOfValset v = .ok hash)
      (hRecover : EthSignature.recover hash c.signature.toBytes = .ok c.address) :
      Progressed b ((b.store.putValsetConfirm c).setConfirmCursor c.validator .valset c.nonce)
  | batchConfirmed {c : BatchConfirm} {batch : Batch} {hash : Digest}
      (hBatch : b.store.batch? c.contract c.nonce = some batch)
      (hPending : batch.isPending = true)
      (hTurn : b.checkTurn c.validator (.batch c.contract)
        ((b.store.pendingBatchesOf c.contract).map Batch.nonce) c.nonce = .ok ())
      (hHash : b.checkpointOfBatch batch = .ok hash)
      (hRecover : EthSignature.recover hash c.signature.toBytes = .ok c.address) :
      Progressed b
        ((b.store.putBatchConfirm c).setConfirmCursor c.validator (.batch c.contract) c.nonce)

theorem nonce_of_currentValset {v : Valset} (h : b.currentValset = .ok v) :
    following b.store.newestValset = .ok v.nonce := by
  obtain ⟨nonce, hNext, hMake⟩ := checked_bind_eq_ok.mp h
  obtain ⟨-, -, -, rfl⟩ := Valset.make_eq_ok.mp (mapError_eq_ok.mp hMake)
  exact hNext

theorem Judged.thins {power : UInt64} {claim : Claim} {outcome : ClaimOutcome}
    (hShelved : b.store.Shelved) (h : Judged b validator power claim outcome b') :
    b.store.Thins b'.store := by
  obtain ⟨s, attestations, claimCursors, hEffect, hStore⟩ := h.exists_effect
  rw [hStore]
  exact (hShelved.thins_effect hEffect).trans (.of_eq rfl rfl rfl rfl rfl rfl)

/-- **What an event does to confirmations.** -/
theorem progressed_of_step (hShelved : b.store.Shelved) (h : Step b event b') :
    Progressed b b'.store := by
  cases h with
  | handled h =>
    cases h with
    | @claimed _ _ _ _ _ m hValid hSigner hJudged =>
      have hThins : b.store.Thins m.store := hJudged.thins hShelved
      exact .thinned hThins
    | valsetConfirmed hConfirmer hValset hNew hTurn hHash hSignature hParts =>
      exact .valsetConfirmed (valsetAt_eq_ok hValset) hTurn hHash
        (recover_of_accepted hSignature hParts)
    | batchConfirmed hConfirmer hBatch hPending hNew hTurn hHash hSignature hParts =>
      exact .batchConfirmed (batchAt_eq_ok hBatch) hPending hTurn hHash
        (recover_of_accepted hSignature hParts)
    | built hContract hPool hAnchor hAnchorHash hNonce hMake hHash =>
      obtain ⟨hMade, -⟩ := Batch.make_eq_ok hMake
      exact .batchMade (hMade ▸ hNonce)
    | requested hSome hMake => exact .valsetMade (nonce_of_currentValset hMake)
    | updated hSome hMake => exact .valsetMade (nonce_of_currentValset hMake)
    | _ => exact .thinned (.of_eq rfl rfl rfl rfl rfl rfl)
  | _ => exact .thinned (.refl _)

theorem shelved_step (h : b.store.Shelved) (hStep : Step b event b') : b'.store.Shelved where
  housed := housed_step h.housed hStep
  canonical := canonical_step h.canonical hStep
  referred := referred_step h.referred hStep

end Bridge

end TokenBridge

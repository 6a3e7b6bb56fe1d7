import TokenBridge.Proofs.Confirmations.Streams

/-!
# Signatures stay good

The signature of a confirmation is checked once, when it is stored. The contract reads it much
later, after batches were executed, keys changed and other signer sets and batches came and went. It
is still over what is stored then, since nothing that is hashed changes under a nonce.

* `EthSignature.Over`: a signature by a key over a checkpoint;
* `Batch.Becomes.checkpoint_eq`: an execution does not change the checkpoint;
* `Store.Verifiable`: the invariant, with one lemma for each kind of change;
* `verifiable_step`, `verifiable_run`: it is kept;
* `signatures_run`: what it says of every stored confirmation.
-/

namespace TokenBridge

/-- A key signed a checkpoint. -/
def EthSignature.Over (sig : EthSignature) (key : EthAddress)
    (checkpoint : Except TagTooLong Digest) : Prop :=
  ∃ hash, checkpoint = .ok hash ∧ recover hash sig.toBytes = .ok key

/-- The status of a batch is not hashed. -/
theorem Batch.Becomes.checkpoint_eq {batch batch' : Batch} (h : batch.Becomes batch')
    (bridgeId : String) : batch'.checkpoint bridgeId = batch.checkpoint bridgeId := by
  rcases h with rfl | ⟨-, rfl⟩
  · rfl
  · rw [Batch.checkpoint, Batch.checkpoint, Batch.preimage, Batch.preimage]

namespace Store

variable {s s' : Store} {bridgeId : String}

/-- Confirmations of what is stored are signed by the key that they name. -/
structure Verifiable (s : Store) (bridgeId : String) : Prop where
  valsets : ∀ nonce v validator c, s.valset? nonce = some v →
    s.valsetConfirm? nonce validator = some c →
    c.signature.Over c.address (v.checkpoint bridgeId)
  batches : ∀ contract nonce batch validator c, s.batch? contract nonce = some batch →
    s.batchConfirm? contract nonce validator = some c →
    c.signature.Over c.address (batch.checkpoint bridgeId)

theorem verifiable_empty (bridgeId : String) : empty.Verifiable bridgeId where
  valsets _ _ _ _ h := by cases h
  batches _ _ _ _ _ h := by cases h

theorem Verifiable.thins (h : s.Verifiable bridgeId) (hThins : s.Thins s') :
    s'.Verifiable bridgeId where
  valsets nonce v validator c hValset hConfirm := by
    obtain ⟨hOld, hSame⟩ := hThins.valset nonce v hValset
    rw [hSame] at hConfirm
    exact h.valsets nonce v validator c hOld hConfirm
  batches contract nonce batch validator c hBatch hConfirm := by
    obtain ⟨⟨old, hOld, hBecomes⟩, hSame⟩ := hThins.batch contract nonce batch hBatch
    rw [hSame] at hConfirm
    rw [hBecomes.checkpoint_eq]
    exact h.batches contract nonce old validator c hOld hConfirm

theorem Verifiable.putValset {v : Valset} (h : s.Verifiable bridgeId) (hShelved : s.Shelved)
    (hAbove : s.newestValset < v.nonce) : (s.putValset v).Verifiable bridgeId where
  valsets nonce w validator c hValset hConfirm := by
    rw [valset?_putValset] at hValset
    by_cases hNew : nonce = v.nonce
    · have hNone : ¬s.Confirms validator .valset v.nonce := hShelved.not_confirms hAbove
      exact absurd (Option.isSome_iff_exists.mpr ⟨c, hNew ▸ hConfirm⟩) hNone
    · rw [if_neg hNew] at hValset
      exact h.valsets nonce w validator c hValset hConfirm
  batches := h.batches

theorem Verifiable.takeBatch {batch : Batch} (h : s.Verifiable bridgeId) (hShelved : s.Shelved)
    (hAbove : s.lastBatchNonce < batch.nonce) : (s.takeBatch batch).Verifiable bridgeId := by
  rw [takeBatch_eq]
  refine ⟨h.valsets, fun contract nonce found validator c hBatch hConfirm => ?_⟩
  rw [batch?, Table.find?_insert] at hBatch
  by_cases hNew : (contract, nonce) = (batch.contract, batch.nonce)
  · obtain ⟨rfl, rfl⟩ := Prod.mk.inj hNew
    have hNone : ¬s.Confirms validator (.batch batch.contract) batch.nonce :=
      hShelved.not_confirms hAbove
    exact absurd (Option.isSome_iff_exists.mpr ⟨c, hConfirm⟩) hNone
  · rw [if_neg hNew] at hBatch
    exact h.batches contract nonce found validator c hBatch hConfirm

theorem Verifiable.putValsetConfirm {c : ValsetConfirm} {v : Valset} (h : s.Verifiable bridgeId)
    (hValset : s.valset? c.nonce = some v)
    (hSigned : c.signature.Over c.address (v.checkpoint bridgeId)) :
    (s.putValsetConfirm c).Verifiable bridgeId where
  valsets nonce w validator other hFound hConfirm := by
    rw [valsetConfirm?, Store.putValsetConfirm, Table.find?_insert] at hConfirm
    by_cases hNew : (nonce, validator) = (c.nonce, c.validator)
    · rw [if_pos hNew] at hConfirm
      obtain ⟨rfl, -⟩ := Prod.mk.inj hNew
      have hSame : v = w := Option.some.inj (hValset.symm.trans hFound)
      rwa [← Option.some.inj hConfirm, ← hSame]
    · rw [if_neg hNew] at hConfirm
      exact h.valsets nonce w validator other hFound hConfirm
  batches := h.batches

theorem Verifiable.putBatchConfirm {c : BatchConfirm} {batch : Batch} (h : s.Verifiable bridgeId)
    (hBatch : s.batch? c.contract c.nonce = some batch)
    (hSigned : c.signature.Over c.address (batch.checkpoint bridgeId)) :
    (s.putBatchConfirm c).Verifiable bridgeId where
  valsets := h.valsets
  batches contract nonce found validator other hFound hConfirm := by
    rw [batchConfirm?, Store.putBatchConfirm, Table.find?_insert] at hConfirm
    by_cases hNew : (contract, nonce, validator) = (c.contract, c.nonce, c.validator)
    · rw [if_pos hNew] at hConfirm
      obtain ⟨rfl, hRest⟩ := Prod.mk.inj hNew
      obtain ⟨rfl, -⟩ := Prod.mk.inj hRest
      have hSame : batch = found := Option.some.inj (hBatch.symm.trans hFound)
      rwa [← Option.some.inj hConfirm, ← hSame]
    · rw [if_neg hNew] at hConfirm
      exact h.batches contract nonce found validator other hFound hConfirm

end Store

namespace Bridge

variable {b b' : Bridge} {event : Event}

theorem verifiable_step (h : b.store.Verifiable b.params.bridgeId) (hShelved : b.store.Shelved)
    (hStep : Step b event b') : b'.store.Verifiable b'.params.bridgeId := by
  rw [params_step hStep]
  generalize hStore : b'.store = s
  cases hStore ▸ progressed_of_step hShelved hStep with
  | thinned hThins => exact h.thins hThins
  | valsetMade hNonce => exact h.putValset hShelved (lt_of_following hNonce)
  | batchMade hNonce => exact h.takeBatch hShelved (lt_of_following hNonce)
  | valsetConfirmed hValset hTurn hHash hRecover =>
    have hConfirm := h.putValsetConfirm hValset ⟨_, mapError_eq_ok.mp hHash, hRecover⟩
    exact ⟨hConfirm.valsets, hConfirm.batches⟩
  | batchConfirmed hBatch hPending hTurn hHash hRecover =>
    have hConfirm := h.putBatchConfirm hBatch ⟨_, mapError_eq_ok.mp hHash, hRecover⟩
    exact ⟨hConfirm.valsets, hConfirm.batches⟩

theorem verifiable_run (origin : Bridge) (events : List Event) :
    let b := origin.blank.run events
    b.store.Shelved ∧ b.store.Verifiable b.params.bridgeId := by
  refine run_induction (P := fun b => b.store.Shelved ∧ b.store.Verifiable b.params.bridgeId)
    (fun b event h => ?_) ⟨Store.shelved_empty, Store.verifiable_empty _⟩ events
  have hStep := step_after b event
  exact ⟨shelved_step h.1 hStep, verifiable_step h.2 h.1 hStep⟩

/-- **Signatures.** After a run from an empty store every stored confirmation stands under its own
fields, what it confirms is stored, and the signature over the checkpoint of that, under the present
id of the bridge, is by exactly the key that the confirmation names. -/
theorem signatures_run (origin : Bridge) (events : List Event) :
    let b := origin.blank.run events
    (∀ key c, b.store.valsetConfirms.find? key = some c → key = (c.nonce, c.validator) ∧
      ∃ v hash, b.store.valset? c.nonce = some v ∧
        v.checkpoint b.params.bridgeId = .ok hash ∧
        EthSignature.recover hash c.signature.toBytes = .ok c.address) ∧
    (∀ key c, b.store.batchConfirms.find? key = some c →
      key = (c.contract, c.nonce, c.validator) ∧
      ∃ batch hash, b.store.batch? c.contract c.nonce = some batch ∧
        batch.checkpoint b.params.bridgeId = .ok hash ∧
        EthSignature.recover hash c.signature.toBytes = .ok c.address) := by
  intro b
  obtain ⟨hShelved, hVerifiable⟩ := verifiable_run origin events
  constructor
  · rintro ⟨nonce, validator⟩ c hFound
    obtain ⟨hKey, v, hValset⟩ := hShelved.referred.exists_valset hFound
    obtain ⟨hash, hHash, hRecover⟩ := hVerifiable.valsets nonce v validator c hValset hFound
    obtain ⟨rfl, rfl⟩ := Prod.mk.inj hKey
    exact ⟨rfl, v, hash, hValset, hHash, hRecover⟩
  · rintro ⟨contract, nonce, validator⟩ c hFound
    obtain ⟨hKey, batch, hBatch⟩ := hShelved.referred.exists_batch hFound
    obtain ⟨hash, hHash, hRecover⟩ :=
      hVerifiable.batches contract nonce batch validator c hBatch hFound
    obtain ⟨rfl, hRest⟩ := Prod.mk.inj hKey
    obtain ⟨rfl, rfl⟩ := Prod.mk.inj hRest
    exact ⟨rfl, batch, hash, hBatch, hHash, hRecover⟩

end Bridge

end TokenBridge

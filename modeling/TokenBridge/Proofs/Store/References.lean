import TokenBridge.Proofs.Bridge.Writes
import TokenBridge.Proofs.Store.Transfers

/-!
# What records refer to

A confirmation is of a signer set or a batch that is stored, and goes when that goes. A key is that
of one validator.

* `Store.Referred`: every confirmation stands under its key and is of something stored;
* `Store.Owned`: no key is zero, and none is that of two validators;
* `referred_step`, `owned_step`: both are kept.
-/

namespace TokenBridge

def ValsetConfirm.key (c : ValsetConfirm) : Nonce × ValidatorAddress :=
  (c.nonce, c.validator)

def BatchConfirm.key (c : BatchConfirm) : EthAddress × Nonce × ValidatorAddress :=
  (c.contract, c.nonce, c.validator)

def BatchConfirm.batchKey (c : BatchConfirm) : EthAddress × Nonce :=
  (c.contract, c.nonce)

namespace Store

variable {s s' : Store} {contract : EthAddress} {nonce : Nonce}

/-! ## Confirmations -/

/-- Confirmations are of what is stored. -/
structure Referred (s : Store) : Prop where
  valsets : s.valsetConfirms.Refers ValsetConfirm.key ValsetConfirm.nonce s.valsets
  batches : s.batchConfirms.Refers BatchConfirm.key BatchConfirm.batchKey s.batches

theorem referred_empty : empty.Referred where
  valsets := Table.refers_empty _ _ _
  batches := Table.refers_empty _ _ _

theorem Referred.exists_valset {c : ValsetConfirm} {validator : ValidatorAddress} (h : s.Referred)
    (hFound : s.valsetConfirm? nonce validator = some c) :
    c.key = (nonce, validator) ∧ ∃ v, s.valset? nonce = some v := by
  have hKey : c.key = (nonce, validator) := h.valsets.keyed _ _ hFound
  obtain ⟨v, hValset⟩ := h.valsets.found c (Table.mem_values_of_find? hFound)
  exact ⟨hKey, v, (Prod.mk.inj hKey).1 ▸ hValset⟩

theorem Referred.exists_batch {c : BatchConfirm} {validator : ValidatorAddress} (h : s.Referred)
    (hFound : s.batchConfirm? contract nonce validator = some c) :
    c.key = (contract, nonce, validator) ∧ ∃ batch, s.batch? contract nonce = some batch := by
  have hKey : c.key = (contract, nonce, validator) := h.batches.keyed _ _ hFound
  obtain ⟨batch, hBatch⟩ := h.batches.found c (Table.mem_values_of_find? hFound)
  obtain ⟨hContract, hRest⟩ := Prod.mk.inj hKey
  rw [BatchConfirm.batchKey, hContract, (Prod.mk.inj hRest).1] at hBatch
  exact ⟨hKey, batch, hBatch⟩

theorem Referred.putValsetConfirm {c : ValsetConfirm} {v : Valset} (h : s.Referred)
    (hValset : s.valset? c.nonce = some v) : (s.putValsetConfirm c).Referred where
  valsets := h.valsets.insert ⟨v, hValset⟩
  batches := h.batches

theorem Referred.putBatchConfirm {c : BatchConfirm} {batch : Batch} (h : s.Referred)
    (hBatch : s.batch? c.contract c.nonce = some batch) : (s.putBatchConfirm c).Referred where
  valsets := h.valsets
  batches := h.batches.insert ⟨batch, hBatch⟩

theorem Referred.putValset (h : s.Referred) (v : Valset) : (s.putValset v).Referred where
  valsets := h.valsets.insert_subject _ _
  batches := h.batches

theorem Referred.putBatch (h : s.Referred) (batch : Batch) : (s.putBatch batch).Referred where
  valsets := h.valsets
  batches := h.batches.insert_subject _ _

theorem Referred.takeBatch (h : s.Referred) (batch : Batch) : (s.takeBatch batch).Referred := by
  rw [takeBatch_eq]
  exact ⟨h.valsets, h.batches.insert_subject _ _⟩

/-- The confirmations of a signer set go together with it. -/
theorem Referred.dropValset (h : s.Referred) (nonce : Nonce) : (s.dropValset nonce).Referred where
  valsets := h.valsets.erase_subject (fun key _ => key.1 != nonce) fun _ hKeep =>
    bne_iff_ne.mp hKeep
  batches := h.batches

/-- The confirmations of a batch go together with it. -/
theorem Referred.cancelBatch (h : s.Referred) (batch : Batch) :
    (s.cancelBatch batch).Referred := by
  rw [cancelBatch_eq]
  refine ⟨h.valsets, h.batches.erase_subject (fun key _ =>
    !(key.1 == batch.contract && key.2.1 == batch.nonce)) fun c hKeep hEq => ?_⟩
  obtain ⟨hContract, hNonce⟩ := Prod.mk.inj hEq
  simp [BatchConfirm.key, hContract, hNonce] at hKeep

theorem Referred.closeBatch (h : s.Referred) (contract : EthAddress) (nonce : Nonce) :
    (s.closeBatch contract nonce).Referred := by
  rcases s.closeBatch_cases contract nonce with ⟨hSame, -⟩ | ⟨batch, -, -, hClosed⟩
  · rw [hSame]
    exact h
  · rw [hClosed]
    exact h.putBatch _

theorem Referred.executeBatch (h : s.Referred) (contract : EthAddress) (nonce : Nonce) :
    (s.executeBatch contract nonce).Referred :=
  List.foldlRecOn _ _ (h.closeBatch contract nonce) fun _ h batch _ => h.cancelBatch batch

theorem Referred.executeValset (h : s.Referred) (nonce : Nonce) :
    (s.executeValset nonce).Referred :=
  executeValset_induction (P := Referred) (fun _ _ h => ⟨h.valsets, h.batches⟩)
    (fun _ older h => h.dropValset older) h nonce

/-! ## Keys -/

/-- Each key is that of one validator. -/
structure Owned (s : Store) : Prop where
  nonZero : ∀ validator key, s.key? validator = some key → key.requireNonZero = .ok ()
  apart : ∀ validator other key, s.key? validator = some key → s.key? other = some key →
    validator = other

theorem owned_empty : empty.Owned where
  nonZero _ _ h := by cases h
  apart _ _ _ h := by cases h

theorem Owned.congr (h : s.Owned) (hKeys : s'.keys = s.keys) : s'.Owned where
  nonZero validator key hFound := h.nonZero validator key (by rwa [key?, ← hKeys])
  apart validator other key hFound hFound' :=
    h.apart validator other key (by rwa [key?, ← hKeys]) (by rwa [key?, ← hKeys])

theorem eq_of_otherOwner?_eq_none {validator other : ValidatorAddress} {key : EthAddress}
    (hFree : s.otherOwner? validator key = none) (hFound : s.key? other = some key) :
    other = validator := by
  rw [otherOwner?, Option.map_eq_none_iff, List.find?_eq_none] at hFree
  simpa using hFree (other, key) (Table.mem_entries_iff.mpr hFound)

theorem Owned.putKey {validator : ValidatorAddress} {key : EthAddress} (h : s.Owned)
    (hKey : key.requireNonZero = .ok ()) (hFree : s.otherOwner? validator key = none) :
    (s.putKey validator key).Owned := by
  have hFound : ∀ {w k}, (s.putKey validator key).key? w = some k →
      w = validator ∧ k = key ∨ w ≠ validator ∧ s.key? w = some k := by
    intro w k h
    rw [key?, Store.putKey, Table.find?_insert] at h
    by_cases hSame : w = validator
    · rw [if_pos hSame] at h
      exact Or.inl ⟨hSame, (Option.some.inj h).symm⟩
    · rw [if_neg hSame] at h
      exact Or.inr ⟨hSame, h⟩
  refine ⟨fun w k hw => ?_, fun w w' k hw hw' => ?_⟩
  · rcases hFound hw with ⟨-, rfl⟩ | ⟨-, hOld⟩
    · exact hKey
    · exact h.nonZero w k hOld
  · rcases hFound hw with ⟨rfl, rfl⟩ | ⟨hOther, hOld⟩
    · rcases hFound hw' with ⟨rfl, -⟩ | ⟨hOther', hOld'⟩
      · rfl
      · exact absurd (eq_of_otherOwner?_eq_none hFree hOld') hOther'
    · rcases hFound hw' with ⟨-, rfl⟩ | ⟨-, hOld'⟩
      · exact absurd (eq_of_otherOwner?_eq_none hFree hOld) hOther
      · exact h.apart w w' k hOld hOld'

theorem Effect.keys_eq (h : s.Effect s') : s'.keys = s.keys := by
  cases h with
  | none => rfl
  | @batch contract nonce =>
    obtain ⟨_, _, _, hFrame⟩ := s.executeBatch_frame contract nonce
    rw [hFrame]
  | @valset nonce =>
    obtain ⟨_, _, _, hFrame⟩ := s.executeValset_frame nonce
    rw [hFrame]

end Store

namespace Bridge

variable {b b' : Bridge} {event : Event}

/-! ## Events -/

theorem referred_step (h : b.store.Referred) (hStep : Step b event b') : b'.store.Referred := by
  generalize hStore : b'.store = s
  cases hStore ▸ written_of_step hStep with
  | judged hEffect =>
    cases hEffect with
    | none => exact ⟨h.valsets, h.batches⟩
    | @batch contract nonce =>
      have hBatch := h.executeBatch contract nonce
      exact ⟨hBatch.valsets, hBatch.batches⟩
    | @valset nonce =>
      have hValset := h.executeValset nonce
      exact ⟨hValset.valsets, hValset.batches⟩
  | valsetConfirmed hValset =>
    have hConfirm := h.putValsetConfirm hValset
    exact ⟨hConfirm.valsets, hConfirm.batches⟩
  | batchConfirmed hBatch =>
    have hConfirm := h.putBatchConfirm hBatch
    exact ⟨hConfirm.valsets, hConfirm.batches⟩
  | built => exact h.takeBatch _
  | valsetMade => exact h.putValset _
  | _ => exact ⟨h.valsets, h.batches⟩

theorem owned_step (h : b.store.Owned) (hStep : Step b event b') : b'.store.Owned := by
  generalize hStore : b'.store = s
  cases hStore ▸ written_of_step hStep with
  | judged hEffect => exact h.congr hEffect.keys_eq
  | registered hKey hFree => exact h.putKey hKey hFree
  | built =>
    refine h.congr ?_
    rw [Store.takeBatch_eq]
  | _ => exact h.congr rfl

end Bridge

end TokenBridge

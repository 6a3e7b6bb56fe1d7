import TokenBridge.Proofs.Store.References
import TokenBridge.Proofs.Valsets.Newest

/-!
# What executions leave of signer sets and batches

An execution forgets signer sets and batches together with their confirmations, and marks a batch as
executed. What it leaves is as it was before, and is confirmed by the same validators.

* `Batch.Becomes`: a batch and what is left of it;
* `Store.Thins`: a store and what is left of it;
* `batchConfirm?_executeBatch`: the confirmations that the execution of a batch leaves;
* `thins_executeBatch`, `thins_executeValset`: executions only thin the store out.
-/

namespace TokenBridge

/-- A batch stays as it is, or it was pending and is executed. -/
def Batch.Becomes (batch batch' : Batch) : Prop :=
  batch' = batch ∨ batch.isPending = true ∧ batch' = { batch with status := .executed }

theorem Batch.Becomes.trans {a b c : Batch} (h : a.Becomes b) (h' : b.Becomes c) : a.Becomes c := by
  rcases h' with rfl | ⟨hPending, rfl⟩
  · exact h
  · rcases h with rfl | ⟨-, rfl⟩
    · exact Or.inr ⟨hPending, rfl⟩
    · cases hPending

theorem Batch.becomes_closedAt (batch : Batch) (contract : EthAddress) (nonce : Nonce) :
    batch.Becomes (batch.closedAt contract nonce) := by
  by_cases hPending : batch.isPending = true
  · by_cases hNamed : batch.key = (contract, nonce)
    · exact Or.inr ⟨hPending, if_pos hNamed⟩
    · exact Or.inl (if_neg hNamed)
  · exact Or.inl (batch.closedAt_of_done (Bool.eq_false_iff.mpr hPending) contract nonce)

/-- What is still pending is as it was. -/
theorem Batch.Becomes.eq_of_isPending {batch batch' : Batch} (h : batch.Becomes batch')
    (hPending : batch'.isPending = true) : batch' = batch := by
  rcases h with rfl | ⟨-, rfl⟩
  · rfl
  · cases hPending

namespace Store

variable {s s' s'' : Store} {contract : EthAddress} {nonce : Nonce}

/-- What is left of a store: nothing that was not there, and with the same confirmations. -/
structure Thins (s s' : Store) : Prop where
  valset : ∀ nonce v, s'.valset? nonce = some v → s.valset? nonce = some v ∧
    ∀ validator, s'.valsetConfirm? nonce validator = s.valsetConfirm? nonce validator
  batch : ∀ contract nonce batch', s'.batch? contract nonce = some batch' →
    (∃ batch, s.batch? contract nonce = some batch ∧ batch.Becomes batch') ∧
    ∀ validator, s'.batchConfirm? contract nonce validator =
      s.batchConfirm? contract nonce validator
  confirmCursors : s'.confirmCursors = s.confirmCursors
  newestValset : s'.newestValset = s.newestValset
  lastBatchNonce : s'.lastBatchNonce = s.lastBatchNonce

/-- Tables that have nothing to do with confirmations do not matter. -/
theorem Thins.of_eq (hValsets : s'.valsets = s.valsets)
    (hValsetConfirms : s'.valsetConfirms = s.valsetConfirms) (hBatches : s'.batches = s.batches)
    (hBatchConfirms : s'.batchConfirms = s.batchConfirms)
    (hCursors : s'.confirmCursors = s.confirmCursors)
    (hLast : s'.lastBatchNonce = s.lastBatchNonce) : s.Thins s' where
  valset nonce v hFound := by
    rw [valset?, hValsets] at hFound
    refine ⟨hFound, fun validator => ?_⟩
    rw [valsetConfirm?, hValsetConfirms, valsetConfirm?]
  batch contract nonce batch hFound := by
    rw [batch?, hBatches] at hFound
    refine ⟨⟨batch, hFound, Or.inl rfl⟩, fun validator => ?_⟩
    rw [batchConfirm?, hBatchConfirms, batchConfirm?]
  confirmCursors := hCursors
  newestValset := newestValset_congr hValsets
  lastBatchNonce := hLast

theorem Thins.refl (s : Store) : s.Thins s :=
  .of_eq rfl rfl rfl rfl rfl rfl

theorem Thins.trans (h : s.Thins s') (h' : s'.Thins s'') : s.Thins s'' where
  valset nonce v hFound := by
    obtain ⟨hMiddle, hLater⟩ := h'.valset nonce v hFound
    obtain ⟨hFirst, hSame⟩ := h.valset nonce v hMiddle
    exact ⟨hFirst, fun validator => (hLater validator).trans (hSame validator)⟩
  batch contract nonce batch hFound := by
    obtain ⟨⟨middle, hMiddle, hBecomes'⟩, hLater⟩ := h'.batch contract nonce batch hFound
    obtain ⟨⟨first, hFirst, hBecomes⟩, hSame⟩ := h.batch contract nonce middle hMiddle
    exact ⟨⟨first, hFirst, hBecomes.trans hBecomes'⟩,
      fun validator => (hLater validator).trans (hSame validator)⟩
  confirmCursors := h'.confirmCursors.trans h.confirmCursors
  newestValset := h'.newestValset.trans h.newestValset
  lastBatchNonce := h'.lastBatchNonce.trans h.lastBatchNonce

/-! ## Executions -/

theorem batchConfirm?_cancelBatch (s : Store) (batch : Batch) (contract : EthAddress)
    (nonce : Nonce) (validator : ValidatorAddress) :
    (s.cancelBatch batch).batchConfirm? contract nonce validator =
      if (contract, nonce) = batch.key then none
      else s.batchConfirm? contract nonce validator := by
  have hKeep : (!(contract == batch.contract && nonce == batch.nonce)) = true ↔
      (contract, nonce) ≠ batch.key := by
    simp [Batch.key, imp_iff_not_or]
  rw [batchConfirm?, cancelBatch_eq, Table.find?_filter, ← batchConfirm?]
  cases s.batchConfirm? contract nonce validator with
  | none => exact (ite_self none).symm
  | some c =>
    simp only [Option.filter_some, hKeep]
    exact ite_not _ _ _

theorem batchConfirm?_foldl_cancelBatch (l : List Batch) (s : Store) (contract : EthAddress)
    (nonce : Nonce) (validator : ValidatorAddress) :
    (l.foldl cancelBatch s).batchConfirm? contract nonce validator =
      if (contract, nonce) ∈ l.map Batch.key then none
      else s.batchConfirm? contract nonce validator := by
  induction l generalizing s with
  | nil => rfl
  | cons first rest ih =>
    rw [List.foldl_cons, ih, batchConfirm?_cancelBatch, List.map_cons]
    by_cases hRest : (contract, nonce) ∈ rest.map Batch.key
    · rw [if_pos hRest, if_pos (List.mem_cons_of_mem _ hRest)]
    · rw [if_neg hRest]
      simp only [List.mem_cons, hRest, or_false]

/-- **The confirmations after an execution.** Those of what is cancelled are forgotten. -/
theorem batchConfirm?_executeBatch (hShelf : s.batches.KeyedBy Batch.key)
    (contract : EthAddress) (nonce : Nonce) (contract' : EthAddress) (nonce' : Nonce)
    (validator : ValidatorAddress) :
    (s.executeBatch contract nonce).batchConfirm? contract' nonce' validator =
      if (s.batch? contract' nonce').any fun batch => batch.Overtaken contract nonce then none
      else s.batchConfirm? contract' nonce' validator := by
  have hKey : (contract', nonce') ∈
        ((s.closeBatch contract nonce).superseded contract nonce).map Batch.key ↔
      ((s.batch? contract' nonce').any fun batch => batch.Overtaken contract nonce) = true := by
    rw [mem_key_superseded hShelf, ← batch?, Option.any_eq_true]
    simp only [decide_eq_true_eq]
  obtain ⟨_, hClosed⟩ := closeBatch_frame s contract nonce
  rw [executeBatch, batchConfirm?_foldl_cancelBatch]
  simp only [hKey]
  rw [hClosed]
  rfl

theorem thins_executeBatch (hShelf : s.batches.KeyedBy Batch.key) (contract : EthAddress)
    (nonce : Nonce) : s.Thins (s.executeBatch contract nonce) := by
  obtain ⟨_, _, _, hFrame⟩ := s.executeBatch_frame contract nonce
  refine ⟨?_, fun contract' nonce' left hLeft => ?_, ?_, newestValset_congr ?_, ?_⟩
  · rw [hFrame]
    exact (Thins.refl s).valset
  · rw [batch?, find?_executeBatch hShelf] at hLeft
    obtain ⟨old, hOld, hOutlasts⟩ := Option.bind_eq_some_iff.mp hLeft
    obtain ⟨hNot, rfl⟩ := Batch.outlast?_eq_some.mp hOutlasts
    refine ⟨⟨old, hOld, old.becomes_closedAt contract nonce⟩, fun validator => ?_⟩
    rw [batchConfirm?_executeBatch hShelf, batch?, hOld]
    exact if_neg fun h => hNot (of_decide_eq_true h)
  · rw [hFrame]
  · rw [hFrame]
  · rw [hFrame]

theorem thins_executeValset (hKeyed : s.valsets.KeyedBy Valset.nonce) (nonce : Nonce) :
    s.Thins (s.executeValset nonce) := by
  obtain ⟨_, _, _, hFrame⟩ := s.executeValset_frame nonce
  refine ⟨fun m v hLeft => ?_, ?_, ?_, newestValset_executeValset hKeyed nonce, ?_⟩
  · rcases executeValset_cases hKeyed nonce with hSame | ⟨-, -, hFind, hConfirms⟩
    · rw [hSame] at hLeft ⊢
      exact ⟨hLeft, fun _ => rfl⟩
    · refine ⟨?_, hConfirms m v hLeft⟩
      rw [hFind] at hLeft
      by_cases hOlder : m < nonce
      · rw [if_pos hOlder] at hLeft
        cases hLeft
      · rwa [if_neg hOlder] at hLeft
  · rw [hFrame]
    exact (Thins.refl s).batch
  · rw [hFrame]
  · rw [hFrame]

end Store

end TokenBridge

import TokenBridge.Store.Execution

/-!
# What executions leave alone

Moving transfers touches the pool only. The execution of a batch touches batches, their
confirmations and the pool; that of a signer set touches signer sets, their confirmations and the
observed one. All other records of the store stay as they are.
-/

namespace TokenBridge.Store

/-! ## Moving transfers -/

theorem foldl_putTransfer (l : List Transfer) (s : Store) :
    l.foldl putTransfer s =
      { s with transfers := l.foldl (fun t tx => t.insert tx.id tx) s.transfers } := by
  induction l generalizing s with
  | nil => rfl
  | cons tx rest ih => rw [List.foldl_cons, ih, putTransfer, List.foldl_cons]

theorem foldl_removeTransfer (l : List Transfer) (s : Store) :
    l.foldl (fun s tx => s.removeTransfer tx.id) s =
      { s with transfers := l.foldl (fun t tx => t.erase tx.id) s.transfers } := by
  induction l generalizing s with
  | nil => rfl
  | cons tx rest ih => rw [List.foldl_cons, ih, removeTransfer, List.foldl_cons]

theorem takeBatch_eq (s : Store) (b : Batch) :
    s.takeBatch b =
      { s with
        batches := s.batches.insert (b.contract, b.nonce) b
        lastBatchNonce := b.nonce
        transfers := b.elements.foldl (fun t tx => t.erase tx.id) s.transfers } := by
  rw [takeBatch, foldl_removeTransfer]
  rfl

theorem cancelBatch_eq (s : Store) (b : Batch) :
    s.cancelBatch b =
      { s with
        batches := s.batches.erase (b.contract, b.nonce)
        batchConfirms := s.batchConfirms.filter fun key _ =>
          !(key.1 == b.contract && key.2.1 == b.nonce)
        transfers := b.elements.foldl (fun t tx => t.insert tx.id tx) s.transfers } := by
  rw [cancelBatch, foldl_putTransfer]
  rfl

/-! ## Frames -/

theorem closeBatch_frame (s : Store) (contract : EthAddress) (nonce : Nonce) :
    ∃ batches, s.closeBatch contract nonce = { s with batches } := by
  rw [closeBatch]
  cases s.batch? contract nonce with
  | none => exact ⟨_, rfl⟩
  | some b =>
    by_cases hPending : b.isPending = true
    · exact ⟨_, if_pos hPending⟩
    · exact ⟨_, if_neg hPending⟩

theorem foldl_cancelBatch_frame (l : List Batch) (s : Store) :
    ∃ batches batchConfirms transfers,
      l.foldl cancelBatch s = { s with batches, batchConfirms, transfers } := by
  induction l generalizing s with
  | nil => exact ⟨_, _, _, rfl⟩
  | cons b rest ih =>
    obtain ⟨batches, batchConfirms, transfers, hRest⟩ := ih (s.cancelBatch b)
    refine ⟨batches, batchConfirms, transfers, ?_⟩
    rw [List.foldl_cons, hRest, cancelBatch_eq]

/-- The execution of a batch touches batches, their confirmations and the pool. -/
theorem executeBatch_frame (s : Store) (contract : EthAddress) (nonce : Nonce) :
    ∃ batches batchConfirms transfers,
      s.executeBatch contract nonce = { s with batches, batchConfirms, transfers } := by
  obtain ⟨closed, hClosed⟩ := closeBatch_frame s contract nonce
  obtain ⟨batches, batchConfirms, transfers, hFold⟩ :=
    foldl_cancelBatch_frame ((s.closeBatch contract nonce).superseded contract nonce)
      (s.closeBatch contract nonce)
  refine ⟨batches, batchConfirms, transfers, ?_⟩
  rw [executeBatch, hFold, hClosed]

theorem foldl_dropValset_frame (l : List Nonce) (s : Store) :
    ∃ valsets valsetConfirms, l.foldl dropValset s = { s with valsets, valsetConfirms } := by
  induction l generalizing s with
  | nil => exact ⟨_, _, rfl⟩
  | cons nonce rest ih =>
    obtain ⟨valsets, valsetConfirms, hRest⟩ := ih (s.dropValset nonce)
    refine ⟨valsets, valsetConfirms, ?_⟩
    rw [List.foldl_cons, hRest]
    rfl

/-- The execution of a signer set touches signer sets, their confirmations and the observed one. -/
theorem executeValset_frame (s : Store) (nonce : Nonce) :
    ∃ valsets valsetConfirms observedValset,
      s.executeValset nonce = { s with valsets, valsetConfirms, observedValset } := by
  rw [executeValset]
  by_cases hKept : (s.valset? nonce).isNone || s.observedValset.any (nonce ≤ ·)
  · exact ⟨_, _, _, if_pos hKept⟩
  · obtain ⟨valsets, valsetConfirms, hFold⟩ :=
      foldl_dropValset_frame (s.olderValsets nonce) { s with observedValset := some nonce }
    refine ⟨valsets, valsetConfirms, some nonce, ?_⟩
    rw [if_neg hKept, hFold]

/-! ## Invariants -/

/-- What noting the observed signer set and forgetting one keep is kept by an execution. -/
theorem executeValset_induction {P : Store → Prop} {s : Store}
    (hObserve : ∀ s nonce, P s → P { s with observedValset := some nonce })
    (hDrop : ∀ s nonce, P s → P (s.dropValset nonce)) (h : P s) (nonce : Nonce) :
    P (s.executeValset nonce) := by
  rw [executeValset]
  by_cases hKept : (s.valset? nonce).isNone || s.observedValset.any (nonce ≤ ·)
  · rw [if_pos hKept]
    exact h
  · rw [if_neg hKept]
    exact List.foldlRecOn _ _ (hObserve s nonce h) fun s h older _ => hDrop s older h

end TokenBridge.Store

import TokenBridge.Proofs.Confirmations.Progress

/-!
# The life of batches

Batches of all contracts share one counter. A batch waits, is cancelled when a later one of its
contract is executed, or is executed itself and then stays as it is.

* `Store.Fronted`: the invariant. No two batches share a nonce, and what waits is above what was
  executed for the same contract;
* `fronted_step`: it is kept;
* `batch?_run`: a batch along a run;
* `batches_run`: all of it from an empty store.
-/

namespace TokenBridge

namespace Store

variable {s s' : Store} {batch : Batch} {contract : EthAddress} {nonce : Nonce}

/-- Nonces of batches are above zero and shared by none, and a contract's waiting batches are above
its executed ones. -/
structure Fronted (s : Store) : Prop where
  positive : ∀ batch ∈ s.batches.values, 0 < batch.nonce.toNat
  apart : ∀ batch ∈ s.batches.values, ∀ other ∈ s.batches.values,
    batch.nonce = other.nonce → batch.contract = other.contract
  front : ∀ waiting ∈ s.batches.values, ∀ done ∈ s.batches.values,
    waiting.contract = done.contract → waiting.isPending = true → done.isPending = false →
      done.nonce < waiting.nonce

theorem fronted_empty : empty.Fronted where
  positive _ h := absurd h List.not_mem_nil
  apart _ h := absurd h List.not_mem_nil
  front _ h := absurd h List.not_mem_nil

theorem Fronted.congr (h : s.Fronted) (hBatches : s'.batches = s.batches) : s'.Fronted where
  positive := hBatches ▸ h.positive
  apart := hBatches ▸ h.apart
  front := hBatches ▸ h.front

/-- A new batch is above all others. -/
theorem Fronted.takeBatch (h : s.Fronted)
    (hBehind : ∀ batch ∈ s.batches.values, batch.nonce.toNat ≤ s.lastBatchNonce.toNat)
    (hPending : batch.isPending = true) (hNonce : s.lastBatchNonce.toNat < batch.nonce.toNat) :
    (s.takeBatch batch).Fronted := by
  have hMem : ∀ other ∈ (s.takeBatch batch).batches.values,
      other = batch ∨ other ∈ s.batches.values ∧ other.nonce.toNat < batch.nonce.toNat := by
    intro other hOther
    rw [takeBatch_eq] at hOther
    rcases Table.mem_values_of_insert hOther with rfl | hOld
    · exact Or.inl rfl
    · exact Or.inr ⟨hOld, Nat.lt_of_le_of_lt (hBehind other hOld) hNonce⟩
  refine ⟨fun one hOne => ?_, fun one hOne other hOther hSame => ?_,
    fun waiting hWaiting done hDone hSame hWaits hExecuted => ?_⟩
  · rcases hMem one hOne with rfl | ⟨hOld, -⟩
    · omega
    · exact h.positive one hOld
  · rcases hMem one hOne with rfl | ⟨hOld, hBelow⟩ <;>
      rcases hMem other hOther with rfl | ⟨hOld', hBelow'⟩
    · rfl
    · rw [hSame] at hBelow'
      omega
    · rw [hSame] at hBelow
      omega
    · exact h.apart one hOld other hOld' hSame
  · rcases hMem done hDone with rfl | ⟨hOldDone, hBelow⟩
    · simp [hPending] at hExecuted
    · rcases hMem waiting hWaiting with rfl | ⟨hOldWaiting, -⟩
      · exact hBelow
      · exact h.front waiting hOldWaiting done hOldDone hSame hWaits hExecuted

/-- An execution cancels what it overtakes. -/
theorem Fronted.executeBatch (h : s.Fronted) (hShelf : s.batches.KeyedBy Batch.key)
    (contract : EthAddress) (nonce : Nonce) : (s.executeBatch contract nonce).Fronted := by
  -- whatever is left was there under the same key
  have hOrigin : ∀ batch ∈ (s.executeBatch contract nonce).batches.values,
      ∃ old ∈ s.batches.values, batch.nonce = old.nonce ∧ batch.contract = old.contract := by
    intro batch hMem
    rcases mem_executeBatch hShelf hMem with ⟨hOld, -⟩ | ⟨old, hOld, -, -, rfl⟩
    · exact ⟨batch, hOld, rfl, rfl⟩
    · exact ⟨old, hOld, rfl, rfl⟩
  refine ⟨fun batch hMem => ?_, fun batch hMem other hOther hSame => ?_,
    fun waiting hWaiting done hDone hSame hWaits hExecuted => ?_⟩
  · obtain ⟨old, hOld, hNonce, -⟩ := hOrigin batch hMem
    rw [hNonce]
    exact h.positive old hOld
  · obtain ⟨old, hOld, hNonce, hContract⟩ := hOrigin batch hMem
    obtain ⟨old', hOld', hNonce', hContract'⟩ := hOrigin other hOther
    rw [hContract, hContract']
    exact h.apart old hOld old' hOld' (by rw [← hNonce, ← hNonce', hSame])
  · rcases mem_executeBatch hShelf hWaiting with ⟨hOldWaiting, hAbove⟩ | ⟨old, -, -, -, rfl⟩
    · rcases mem_executeBatch hShelf hDone with ⟨hOldDone, -⟩ | ⟨old, -, -, hKey, rfl⟩
      · exact h.front waiting hOldWaiting done hOldDone hSame hWaits hExecuted
      · obtain ⟨hContract, hNonce⟩ := Prod.mk.inj hKey
        show old.nonce < waiting.nonce
        rw [hNonce]
        exact hAbove hWaits (hSame.trans hContract)
    · cases hWaits

theorem Fronted.nodup_nonces (h : s.Fronted) (hShelf : s.batches.KeyedBy Batch.key) :
    (s.batches.values.map Batch.nonce).Nodup := by
  refine List.Nodup.map_on (fun batch hMem other hOther hSame => ?_) (hShelf.nodup.of_map _)
  have hKey : batch.key = other.key := Prod.ext (h.apart batch hMem other hOther hSame) hSame
  have hFound := hShelf.mem_values_iff.mp hMem
  rw [hKey, hShelf.mem_values_iff.mp hOther] at hFound
  exact (Option.some.inj hFound).symm

end Store

namespace Bridge

variable {b b' : Bridge} {event : Event} {batch : Batch} {contract : EthAddress} {nonce : Nonce}

/-! ## Events -/

theorem fronted_step (hHoused : b.store.Housed) (h : b.store.Fronted) (hStep : Step b event b') :
    b'.store.Fronted := by
  cases moved_of_step hHoused.pool hStep with
  | idle hSame => exact h.congr hSame.batches
  | queued _ _ _ hStore =>
    rw [hStore]
    exact h.congr rfl
  | built hPending hNonce _ _ _ hStore =>
    rw [hStore]
    exact h.takeBatch hHoused.behind hPending hNonce
  | executed hSame => exact (h.executeBatch hHoused.shelf _ _).congr hSame.batches

/-- What is stored after an event was stored before it and has at most been executed since, or it is
above all nonces that had been given out. -/
theorem batch?_step (h : b.store.Housed) (hStep : Step b event b')
    (hFound : b'.store.batch? contract nonce = some batch) :
    (∃ old, b.store.batch? contract nonce = some old ∧ old.Becomes batch) ∨
      b.store.lastBatchNonce < nonce := by
  cases moved_of_step h.pool hStep with
  | idle hSame =>
    rw [Store.batch?, hSame.batches] at hFound
    exact Or.inl ⟨batch, hFound, Or.inl rfl⟩
  | queued _ _ _ hStore =>
    rw [hStore] at hFound
    exact Or.inl ⟨batch, hFound, Or.inl rfl⟩
  | @built made _ hNonce _ _ _ hStore =>
    rw [hStore, Store.takeBatch_eq, Store.batch?, Table.find?_insert] at hFound
    by_cases hNew : (contract, nonce) = (made.contract, made.nonce)
    · right
      rw [(Prod.mk.inj hNew).2]
      exact hNonce
    · rw [if_neg hNew] at hFound
      exact Or.inl ⟨batch, hFound, Or.inl rfl⟩
  | @executed contract' nonce' hSame =>
    have hLeft : (b.store.executeBatch contract' nonce').batch? contract nonce = some batch := by
      rwa [Store.batch?, ← hSame.batches]
    exact Or.inl ((Store.thins_executeBatch h.shelf contract' nonce').batch _ _ _ hLeft).1

theorem lastBatchNonce_step (h : b.store.Housed) (hStep : Step b event b') :
    b.store.lastBatchNonce ≤ b'.store.lastBatchNonce := by
  cases moved_of_step h.pool hStep with
  | idle hSame =>
    rw [hSame.lastBatchNonce]
    exact Nat.le_refl _
  | queued _ _ _ hStore =>
    rw [hStore]
    exact Nat.le_refl _
  | built _ hNonce _ _ _ hStore =>
    rw [hStore, Store.takeBatch_eq]
    exact Nat.le_of_lt hNonce
  | @executed contract nonce hSame =>
    obtain ⟨_, _, _, hFrame⟩ := b.store.executeBatch_frame contract nonce
    rw [hSame.lastBatchNonce, hFrame]
    exact Nat.le_refl _

/-! ## Runs -/

theorem fronted_run (hHoused : b.store.Housed) (h : b.store.Fronted) (events : List Event) :
    (b.run events).store.Fronted := by
  refine (run_induction (P := fun b => b.store.Housed ∧ b.store.Fronted) (fun b event hb => ?_)
    ⟨hHoused, h⟩ events).2
  have hStep := step_after b event
  exact ⟨housed_step hb.1 hStep, fronted_step hb.1 hb.2 hStep⟩

/-- What is stored after a run under a nonce that had been given out before it was stored then, and
has at most been executed since. -/
theorem batch?_run (h : b.store.Housed) (hUsed : nonce ≤ b.store.lastBatchNonce)
    (events : List Event) (hFound : (b.run events).store.batch? contract nonce = some batch) :
    ∃ old, b.store.batch? contract nonce = some old ∧ old.Becomes batch := by
  induction events generalizing b with
  | nil => exact ⟨batch, hFound, Or.inl rfl⟩
  | cons event events ih =>
    have hStep := step_after b event
    have hUsed' : nonce ≤ (b.after event).store.lastBatchNonce :=
      Nat.le_trans hUsed (lastBatchNonce_step h hStep)
    obtain ⟨middle, hMiddle, hBecomes'⟩ := ih (housed_step h hStep) hUsed' hFound
    rcases batch?_step h hStep hMiddle with ⟨old, hOld, hBecomes⟩ | hAbove
    · exact ⟨old, hOld, hBecomes.trans hBecomes'⟩
    · exact absurd hUsed (Nat.not_le.mpr hAbove)

/-! ## The lifecycle -/

/-- **The life of batches.** In a run from an empty store the nonces of batches are between one and
the last nonce given out, and no two batches of any contracts share one. What is stored later under
a nonce that has been given out is the batch that is stored under it now, and it has the same
elements, fee and signer set checkpoint. An executed batch stays as it is. A contract's waiting
batches are above its executed ones, and confirmations are of stored batches. -/
theorem batches_run (origin : Bridge) (events : List Event) :
    let b := origin.blank.run events
    (∀ batch ∈ b.store.batches.values, 1 ≤ batch.nonce.toNat ∧
      batch.nonce ≤ b.store.lastBatchNonce) ∧
    (b.store.batches.values.map Batch.nonce).Nodup ∧
    (∀ contract nonce, nonce ≤ b.store.lastBatchNonce → ∀ later batch',
      (b.run later).store.batch? contract nonce = some batch' →
      ∃ batch, b.store.batch? contract nonce = some batch ∧ batch'.elements = batch.elements ∧
        batch'.totalFee = batch.totalFee ∧ batch'.valsetCheckpoint = batch.valsetCheckpoint) ∧
    (∀ contract nonce batch, b.store.batch? contract nonce = some batch →
      batch.status = .executed → ∀ later,
      (b.run later).store.batch? contract nonce = some batch) ∧
    (∀ waiting ∈ b.store.batches.values, ∀ done ∈ b.store.batches.values,
      waiting.contract = done.contract → waiting.status = .pending → done.status = .executed →
      done.nonce < waiting.nonce) ∧
    (∀ contract nonce validator c, b.store.batchConfirm? contract nonce validator = some c →
      ∃ batch, b.store.batch? contract nonce = some batch) := by
  intro b
  have hHoused : b.store.Housed := housed_run Store.housed_empty events
  have hFronted : b.store.Fronted := fronted_run Store.housed_empty Store.fronted_empty events
  have hReferred : b.store.Referred := run_induction (P := fun b => b.store.Referred)
    (fun b event h => referred_step h (step_after b event)) Store.referred_empty events
  refine ⟨fun batch hMem => ⟨hFronted.positive batch hMem, hHoused.behind batch hMem⟩,
    hFronted.nodup_nonces hHoused.shelf, fun contract nonce hUsed later batch' hFound => ?_,
    fun contract nonce batch hStored hStatus later => ?_,
    fun waiting hWaiting done hDone hSame hWaits hExecuted => ?_,
    fun contract nonce validator c hConfirm => (hReferred.exists_batch hConfirm).2⟩
  · obtain ⟨batch, hStored, hBecomes⟩ := batch?_run hHoused hUsed later hFound
    refine ⟨batch, hStored, ?_⟩
    rcases hBecomes with rfl | ⟨-, rfl⟩ <;> exact ⟨rfl, rfl, rfl⟩
  · have hKey : batch.key = (contract, nonce) := hHoused.shelf _ _ hStored
    rw [Store.batch?, ← hKey] at hStored ⊢
    exact find?_batch_run hHoused hStored (Batch.isPending_of_executed hStatus) later
  · refine hFronted.front waiting hWaiting done hDone hSame ?_ (Batch.isPending_of_executed hExecuted)
    simp [Batch.isPending, hWaits]

end Bridge

end TokenBridge

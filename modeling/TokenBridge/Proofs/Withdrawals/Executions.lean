import TokenBridge.Proofs.Claims.Fingerprints
import TokenBridge.Proofs.Store.Thinning
import TokenBridge.Proofs.Withdrawals.Assembly

/-!
# The execution of a batch

When the execution of a batch is agreed on, the batch is closed, and the batches of its contract
that wait below it are cancelled: their confirmations are forgotten, and their transfers wait again.

* `Store.Executes`: what becomes of batches, confirmations and the pool;
* `Store.executes_executeBatch`: an execution does just that;
* `execution_run`: what an agreed execution changes along a run from an empty store.
-/

namespace TokenBridge

open scoped List

/-! ## Batches, confirmations and the pool -/

namespace Store

variable {s s' : Store} {contract : EthAddress} {nonce : Nonce}

/-- What an execution makes of the batches, their confirmations and the pool. -/
structure Executes (s : Store) (contract : EthAddress) (nonce : Nonce) (s' : Store) : Prop where
  batch : ∀ key,
    s'.batches.find? key = (s.batches.find? key).bind fun batch => batch.outlast? contract nonce
  confirm : ∀ contract' nonce' validator, s'.batchConfirm? contract' nonce' validator =
    if (s.batch? contract' nonce').any fun batch => batch.Overtaken contract nonce then none
    else s.batchConfirm? contract' nonce' validator
  keyed : s'.transfers.KeyedBy Transfer.id
  pool : s'.transfers.values ~ s.transfers.values ++
    (s.batches.values.filter fun batch => batch.Overtaken contract nonce).flatMap Batch.elements

/-- The transfers of some batches, and those of what is left of them after an execution. -/
theorem perm_elements (l : List Batch) (contract : EthAddress) (nonce : Nonce) :
    l.flatMap Batch.elements ~
      (l.filter fun batch => batch.Overtaken contract nonce).flatMap Batch.elements ++
        (l.filterMap fun batch => batch.outlast? contract nonce).flatMap Batch.elements := by
  induction l with
  | nil => exact .refl _
  | cons first rest ih =>
    by_cases hBelow : first.Overtaken contract nonce
    · have hGone : first.outlast? contract nonce = none := if_pos hBelow
      simp only [List.filter_cons, List.filterMap_cons, decide_eq_true_eq, if_pos hBelow, hGone,
        List.flatMap_cons, List.append_assoc]
      exact ih.append_left _
    · have hLeft : first.outlast? contract nonce = some (first.closedAt contract nonce) :=
        if_neg hBelow
      have hElements : (first.closedAt contract nonce).elements = first.elements := by
        rw [Batch.closedAt]
        split <;> rfl
      simp only [List.filter_cons, List.filterMap_cons, decide_eq_true_eq, if_neg hBelow, hLeft,
        List.flatMap_cons, hElements]
      exact (ih.append_left _).trans (List.perm_append_comm_assoc _ _ _)

/-- All transfers stay, so what is no longer in a batch waits. -/
theorem perm_transfers_executeBatch (h : s.Sheltered) (contract : EthAddress) (nonce : Nonce) :
    (s.executeBatch contract nonce).transfers.values ~ s.transfers.values ++
      (s.batches.values.filter fun batch => batch.Overtaken contract nonce).flatMap
        Batch.elements := by
  have hBatched := perm_elements s.batches.values contract nonce
  rw [← Table.values_eq_filterMap (find?_executeBatch h.shelf contract nonce)] at hBatched
  have hCustody := (executeBatch_sheltered h contract nonce).2.trans (hBatched.append_left _)
  rw [← List.append_assoc] at hCustody
  exact (List.perm_append_right_iff _).mp hCustody

/-- **What an execution does.** -/
theorem executes_executeBatch (h : s.Sheltered) (contract : EthAddress) (nonce : Nonce) :
    s.Executes contract nonce (s.executeBatch contract nonce) where
  batch := find?_executeBatch h.shelf contract nonce
  confirm := batchConfirm?_executeBatch h.shelf contract nonce
  keyed := (executeBatch_sheltered h contract nonce).1.pool
  pool := perm_transfers_executeBatch h contract nonce

end Store

namespace Bridge

/-! ## Runs -/

/-- **Execution.** In a run from an empty store let the claim that a batch was executed be answered
with `finalized`. What is settled is the claim that is held under its fingerprint, which is the same
one unless two payloads have the same hash. The batch that it names is closed if it is stored. The
batches of its contract that wait below it are cancelled together with their confirmations, and
their transfers join the pool. All other batches and confirmations stay, and so does all else but
tallies, the cursors of claims and the counters. -/
theorem execution_run (origin : Bridge) (events : List Event) (orchestrator : AccountAddress)
    (nonce batchNonce : Nonce) (contract : EthAddress) (b' : Bridge)
    (hFinal : submitClaim orchestrator (.batchExecuted nonce batchNonce contract)
      (origin.blank.run events) = .ok .finalized b') :
    let b := origin.blank.run events
    let claim := Claim.batchExecuted nonce batchNonce contract
    let held := (b.tally claim).claim
    (held = claim ∨ held.payload ≠ claim.payload ∧ held.fingerprint = claim.fingerprint) ∧
    (∃ batchNonce' contract', held = .batchExecuted nonce batchNonce' contract' ∧
      b.store.Executes contract' batchNonce' b'.store) ∧
    b' = { b with
      store := { b.store with
        batches := b'.store.batches
        batchConfirms := b'.store.batchConfirms
        transfers := b'.store.transfers
        attestations := b'.store.attestations
        claimCursors := b'.store.claimCursors }
      counters := b'.counters } := by
  intro b claim held
  have hAgreed : b.store.Agreed := agreed_run Store.agreed_empty events
  have hOrderly : b.store.Orderly := orderly_run Store.orderly_empty events
  obtain ⟨hValid, _, _, a, m, hAmended, -, hEnacted, rfl⟩ := amended_of_finalized hFinal
  obtain ⟨hKind, hNonce, hDetails⟩ := claim_tally hAgreed.filed hOrderly.genuine hValid
  obtain ⟨batchNonce', contract', hHeld⟩ : ∃ batchNonce' contract',
      held = .batchExecuted nonce batchNonce' contract' := by
    cases hHeld : held with
    | batchExecuted nonce' batchNonce' contract' =>
      have hSame : nonce' = nonce := (congrArg Claim.nonce hHeld).symm.trans hNonce
      exact ⟨batchNonce', contract', by rw [hSame]⟩
    | deposit => cases (congrArg Claim.kind hHeld).symm.trans hKind
    | valsetExecuted => cases (congrArg Claim.kind hHeld).symm.trans hKind
  have hSettled : a.claim = .batchExecuted nonce batchNonce' contract' :=
    hAmended.grows.claim_eq.trans hHeld
  rw [hSettled] at hEnacted
  cases hEnacted with
  | batch =>
    refine ⟨?_, ⟨batchNonce', contract', hHeld, ?_⟩, ?_⟩
    · by_cases hPayload : held.payload = claim.payload
      · rw [hHeld] at hPayload ⊢
        exact Or.inl (Claim.eq_iff.mpr ⟨rfl, hPayload⟩)
      · exact Or.inr ⟨hPayload, hDetails⟩
    · obtain ⟨hBatch, hConfirm, hKeyed, hPool⟩ :=
        Store.executes_executeBatch hOrderly.housed.sheltered contract' batchNonce'
      exact ⟨hBatch, hConfirm, hKeyed, hPool⟩
    · obtain ⟨_, _, _, hFrame⟩ :=
        (origin.blank.run events).store.executeBatch_frame contract' batchNonce'
      simp only [settle, hFrame]
      rfl

/-! ## Two batches of one contract -/

/-- Two transfers of a contract go into batches of their own. -/
def twoBatches : List Event :=
  anchored ++ [.message (.claim ⟨.ofNat 20 2⟩ (depositOf ⟨1⟩ 600)),
    queuing (withdrawal "USD" 2 1), .message (.buildBatch ⟨.ofNat 20 7⟩),
    queuing (withdrawal "USD" 1 2), .message (.buildBatch ⟨.ofNat 20 7⟩)]

/-- The claim that the later batch was executed. -/
def laterExecuted : Claim :=
  .batchExecuted ⟨1⟩ ⟨2⟩ ⟨.ofNat 20 7⟩

/-- A batch without its fee and its signer set. -/
def outline (batch : Batch) : EthAddress × Nonce × List Transfer × BatchStatus :=
  (batch.contract, batch.nonce, batch.elements, batch.status)

theorem batches_twoBatches :
    let b := (default : Bridge).blank.run twoBatches
    b.store.batches.values.map outline =
      [(⟨.ofNat 20 7⟩, ⟨1⟩, [withdrawal "USD" 2 1], .pending),
        (⟨.ofNat 20 7⟩, ⟨2⟩, [withdrawal "USD" 1 2], .pending)] ∧
    b.store.transfers.values = [] ∧ (b.tally laterExecuted).claim = laterExecuted ∧
    answer (submitClaim ⟨.ofNat 20 2⟩ laterExecuted) b = .ok .finalized := by
  decide +kernel

/-- The later batch is executed, the earlier one is cancelled, and its transfer waits again. -/
theorem execution_of_twoBatches :
    ∃ b', submitClaim ⟨.ofNat 20 2⟩ laterExecuted ((default : Bridge).blank.run twoBatches) =
        .ok .finalized b' ∧
      b'.store.batches.values.map outline =
        [(⟨.ofNat 20 7⟩, ⟨2⟩, [withdrawal "USD" 1 2], .executed)] ∧
      b'.store.transfers.values = [withdrawal "USD" 2 1] := by
  obtain ⟨hBatches, hPool, hHeld, hAnswer⟩ := batches_twoBatches
  have hFinal := eq_ok_of_answer hAnswer
  obtain ⟨-, ⟨batchNonce, contract, hShape, hExecutes⟩, -⟩ :=
    execution_run default twoBatches ⟨.ofNat 20 2⟩ ⟨1⟩ ⟨2⟩ ⟨.ofNat 20 7⟩ _ hFinal
  obtain ⟨-, rfl, rfl⟩ := Claim.batchExecuted.inj (hHeld.symm.trans hShape)
  obtain ⟨first, rest, hValues, hFirst, hRest⟩ := List.map_eq_cons_iff.mp hBatches
  obtain ⟨second, _, rfl, hSecond, hNil⟩ := List.map_eq_cons_iff.mp hRest
  obtain rfl := List.map_eq_nil_iff.mp hNil
  simp only [outline, Prod.mk.injEq] at hFirst hSecond
  obtain ⟨hContract₁, hNonce₁, hElements₁, hStatus₁⟩ := hFirst
  obtain ⟨hContract₂, hNonce₂, hElements₂, hStatus₂⟩ := hSecond
  have hBelow : first.Overtaken ⟨.ofNat 20 7⟩ ⟨2⟩ := by
    refine ⟨?_, hContract₁, ?_⟩
    · rw [Batch.isPending, hStatus₁]
      rfl
    · rw [hNonce₁]
      decide
  have hLast : ¬second.Overtaken ⟨.ofNat 20 7⟩ ⟨2⟩ := by
    rintro ⟨-, -, hLess⟩
    rw [hNonce₂] at hLess
    exact Nat.lt_irrefl _ hLess
  have hNamed : second.closedAt ⟨.ofNat 20 7⟩ ⟨2⟩ = { second with status := .executed } :=
    if_pos (Prod.ext hContract₂ hNonce₂)
  refine ⟨_, hFinal, ?_, ?_⟩
  · rw [Table.values_eq_filterMap hExecutes.batch, hValues]
    simp [Batch.outlast?, hBelow, hLast, hNamed, outline, hContract₂, hNonce₂, hElements₂]
  · have hWaiting := hExecutes.pool
    rw [hPool, hValues] at hWaiting
    simpa [hBelow, hLast, hElements₁] using hWaiting

end Bridge

end TokenBridge

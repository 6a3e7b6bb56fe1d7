import TokenBridge.Proofs.Bridge.Writes
import TokenBridge.Proofs.Store.Transfers
import TokenBridge.Proofs.Withdrawals.Fees

/-!
# Custody of transfers

Along a run from an empty store every transfer that was sent is kept in exactly one place, the pool
or one batch, and unchanged.

* `Moved`, `moved_of_step`: what an event does to transfers and batches;
* `sheltered_step`, `housed_step`: transfers and batches stay in order;
* `sent`: the transfers that were accepted in a run; `custody_perm_run`: they are kept, and what was
  there before as well;
* `find?_batch_run`: an executed batch stays as it is.
-/

namespace TokenBridge

namespace Batch

/-- A batch that is made waits and holds the given transfers, which are all of its contract. -/
theorem make_eq_ok {nonce : Nonce} {contract : EthAddress} {elements : List Transfer}
    {valsetCheckpoint : Digest} {batch : Batch}
    (h : make nonce contract elements valsetCheckpoint = .ok batch) :
    batch.nonce = nonce ∧ batch.contract = contract ∧ batch.elements = elements ∧
      batch.isPending = true ∧ ∀ tx ∈ elements, tx.contract = contract := by
  obtain ⟨-, first, rest, total, -, hFees, rfl⟩ := make_eq_ok_iff.mp h
  exact ⟨rfl, rfl, rfl, rfl, fun tx hMem => ((sumFees_eq_ok_iff.mp hFees).1 tx hMem).1⟩

theorem isPending_of_executed {batch : Batch} (h : batch.status = .executed) :
    batch.isPending = false := by
  rw [isPending, h]
  rfl

end Batch

namespace Bridge

open scoped List

variable {b b' : Bridge} {event : Event}

/-! ## Selections -/

/-- The transfers of a contract that wait, in the order in which they are taken. -/
def ranking (b : Bridge) (contract : EthAddress) : List Transfer :=
  (b.store.transfersOf contract).mergeSort Transfer.feeLe

theorem mem_ranking {contract : EthAddress} {tx : Transfer} :
    tx ∈ b.ranking contract ↔ tx ∈ b.store.transfersOf contract :=
  List.mem_mergeSort

theorem length_ranking (b : Bridge) (contract : EthAddress) :
    (b.ranking contract).length = (b.store.transfersOf contract).length :=
  List.length_mergeSort _

theorem nodup_ranking (hKeyed : b.store.transfers.KeyedBy Transfer.id) (contract : EthAddress) :
    ((b.ranking contract).map Transfer.id).Nodup := by
  have hWaiting : ((b.store.transfersOf contract).map Transfer.id).Nodup :=
    hKeyed.nodup.sublist (List.filter_sublist.map _)
  exact ((List.mergeSort_perm _ Transfer.feeLe).map Transfer.id).nodup_iff.mpr hWaiting

theorem mem_of_mem_selection {contract : EthAddress} {tx : Transfer}
    (h : tx ∈ b.selection contract) : tx ∈ b.store.transfers.values := by
  rw [selection] at h
  exact (List.mem_filter.mp (mem_ranking.mp (List.mem_of_mem_take h))).1

theorem nodup_selection (hKeyed : b.store.transfers.KeyedBy Transfer.id) (contract : EthAddress) :
    ((b.selection contract).map Transfer.id).Nodup :=
  (nodup_ranking hKeyed contract).sublist ((List.take_sublist _ _).map _)

/-! ## Events -/

/-- What an event does to transfers and batches. -/
inductive Moved (b : Bridge) (event : Event) (s : Store) : Prop
  | idle (hSame : b.store.SameTransfers s)
  | queued {tx : Transfer}
      (hEvent : event = .message (.send tx.sender tx.dest tx.amount tx.fee))
      (hRoom : b.store.lastTransferId.toNat + 1 ≠ UInt64.size)
      (hId : tx.id = b.store.lastTransferId + 1)
      (hStore : s = b.store.queue tx)
  | built {batch : Batch}
      (hPending : batch.isPending = true)
      (hNonce : b.store.lastBatchNonce.toNat < batch.nonce.toNat)
      (hNodup : (batch.elements.map Transfer.id).Nodup)
      (hWaiting : ∀ tx ∈ batch.elements, tx ∈ b.store.transfers.values)
      (hUniform : ∀ tx ∈ batch.elements, tx.contract = batch.contract)
      (hStore : s = b.store.takeBatch batch)
  | executed {contract : EthAddress} {nonce : Nonce}
      (hSame : (b.store.executeBatch contract nonce).SameTransfers s)

theorem moved_of_judged {validator : ValidatorAddress} {power : UInt64} {claim : Claim}
    {outcome : ClaimOutcome} (h : Judged b validator power claim outcome b') :
    Moved b event b'.store := by
  obtain ⟨s, attestations, claimCursors, hEffect, hStore⟩ := h.exists_effect
  rw [hStore]
  cases hEffect with
  | none => exact .idle ⟨rfl, rfl, rfl, rfl⟩
  | batch => exact .executed ⟨rfl, rfl, rfl, rfl⟩
  | @valset nonce =>
    obtain ⟨_, _, _, hFrame⟩ := b.store.executeValset_frame nonce
    rw [hFrame]
    exact .idle ⟨rfl, rfl, rfl, rfl⟩

/-- **What an event does to transfers and batches.** -/
theorem moved_of_step (hKeyed : b.store.transfers.KeyedBy Transfer.id) (h : Step b event b') :
    Moved b event b'.store := by
  cases h with
  | handled h =>
    cases h with
    | @claimed _ _ _ _ _ m hValid hSigner hJudged =>
      show Moved b _ m.store
      exact moved_of_judged hJudged
    | queued hSender hRoom hValid hTotal hBurn => exact .queued rfl hRoom rfl rfl
    | @built contract _ _ _ _ batch hContract hPool hAnchor hAnchorHash hNonce hMake hHash =>
      obtain ⟨hMadeNonce, hMadeContract, hElements, hPending, hUniform⟩ := Batch.make_eq_ok hMake
      refine .built hPending ?_ ?_ (fun tx hMem => ?_) ?_ rfl
      · rw [hMadeNonce, following_eq_ok hNonce]
        exact Nat.lt_succ_self _
      · rw [hElements]
        exact nodup_selection hKeyed contract
      · rw [hElements] at hMem
        exact mem_of_mem_selection hMem
      · rw [hElements, hMadeContract]
        exact hUniform
    | _ => exact .idle ⟨rfl, rfl, rfl, rfl⟩
  | _ => exact .idle ⟨rfl, rfl, rfl, rfl⟩

theorem sheltered_step (h : b.store.Sheltered) (hStep : Step b event b') :
    b'.store.Sheltered := by
  cases moved_of_step h.pool hStep with
  | idle hSame => exact hSame.sheltered h
  | queued _ hRoom hId hStore =>
    rw [hStore]
    exact h.queue hRoom hId
  | built _ hNonce hNodup hWaiting _ hStore =>
    rw [hStore]
    exact h.takeBatch hNonce hNodup hWaiting
  | executed hSame => exact hSame.sheltered (Store.executeBatch_sheltered h _ _).1

theorem sheltered_run (h : b.store.Sheltered) (events : List Event) :
    (b.run events).store.Sheltered :=
  run_induction (P := fun b => b.store.Sheltered)
    (fun b event h => sheltered_step h (step_after b event)) h events

theorem housed_step (h : b.store.Housed) (hStep : Step b event b') : b'.store.Housed := by
  cases moved_of_step h.pool hStep with
  | idle hSame => exact hSame.housed h
  | queued _ hRoom hId hStore =>
    rw [hStore]
    exact h.queue hRoom hId
  | built _ hNonce hNodup hWaiting hUniform hStore =>
    rw [hStore]
    exact h.takeBatch hNonce hNodup hWaiting hUniform
  | executed hSame => exact hSame.housed (h.executeBatch _ _)

theorem housed_run (h : b.store.Housed) (events : List Event) : (b.run events).store.Housed :=
  run_induction (P := fun b => b.store.Housed)
    (fun b event h => housed_step h (step_after b event)) h events

/-- An event that queues nothing keeps all transfers. -/
theorem custody_perm_of_step (h : b.store.Sheltered) (hStep : Step b event b')
    (hOther : ∀ sender dest amount fee, event ≠ .message (.send sender dest amount fee)) :
    b'.store.custody ~ b.store.custody := by
  cases moved_of_step h.pool hStep with
  | idle hSame => rw [hSame.custody_eq]
  | queued hEvent => exact absurd hEvent (hOther _ _ _ _)
  | built _ hNonce hNodup hWaiting _ hStore =>
    rw [hStore]
    exact Store.takeBatch_perm h hNonce hNodup hWaiting
  | executed hSame =>
    rw [hSame.custody_eq]
    exact (Store.executeBatch_sheltered h _ _).2

theorem find?_batch_step {batch : Batch} (h : b.store.Housed) (hStep : Step b event b')
    (hStored : b.store.batches.find? batch.key = some batch) (hDone : batch.isPending = false) :
    b'.store.batches.find? batch.key = some batch := by
  cases moved_of_step h.pool hStep with
  | idle hSame => rw [hSame.batches, hStored]
  | queued _ _ _ hStore =>
    rw [hStore]
    exact hStored
  | @built made _ hNonce _ _ _ hStore =>
    have hNe : batch.key ≠ made.key := by
      intro hEq
      rw [hEq, h.sheltered.find?_batch_eq_none hNonce] at hStored
      cases hStored
    rw [hStore, Store.takeBatch_eq, Table.find?_insert]
    exact (if_neg hNe).trans hStored
  | executed hSame =>
    rw [hSame.batches]
    exact Store.find?_executeBatch_of_done h.shelf hStored hDone _ _

theorem find?_batch_run {batch : Batch} (h : b.store.Housed)
    (hStored : b.store.batches.find? batch.key = some batch) (hDone : batch.isPending = false)
    (events : List Event) : (b.run events).store.batches.find? batch.key = some batch := by
  refine (run_induction (P := fun b => b.store.Housed ∧
    b.store.batches.find? batch.key = some batch) (fun b event h => ?_) ⟨h, hStored⟩ events).2
  have hStep := step_after b event
  exact ⟨housed_step h.1 hStep, find?_batch_step h.1 hStep h.2 hDone⟩

/-! ## Accepted transfers -/

/-- The transfer that an event queues, with the id that the answer tells. -/
def queuedBy (b : Bridge) : Event → Option Transfer
  | .message (.send sender dest amount fee) =>
    match send sender dest amount fee b with
    | .ok id _ => some ⟨id, sender, dest, amount, fee⟩
    | .error _ _ => none
  | _ => none

def sent (b : Bridge) : List Event → List Transfer
  | [] => []
  | event :: events => (b.queuedBy event).toList ++ (b.after event).sent events

theorem after_send (b : Bridge) (sender : AccountAddress) (dest : EthAddress)
    (amount fee : Token) :
    b.after (.message (.send sender dest amount fee)) = left (send sender dest amount fee) b :=
  left_map Reply.queued (send sender dest amount fee) b

theorem queuedBy_eq_none
    (hOther : ∀ sender dest amount fee, event ≠ .message (.send sender dest amount fee)) :
    b.queuedBy event = none := by
  cases event with
  | staking change => rfl
  | message message =>
    cases message with
    | send sender dest amount fee => exact absurd rfl (hOther sender dest amount fee)
    | _ => rfl

/-- A transfer that is sent is queued under the next id, or nothing happens. -/
theorem queuedBy_send (b : Bridge) (sender : AccountAddress) (dest : EthAddress)
    (amount fee : Token) :
    (b.queuedBy (.message (.send sender dest amount fee)) = none ∧
      b.after (.message (.send sender dest amount fee)) = b) ∨
    ∃ tx, b.queuedBy (.message (.send sender dest amount fee)) = some tx ∧
      b.store.lastTransferId.toNat + 1 ≠ UInt64.size ∧ tx.id = b.store.lastTransferId + 1 ∧
      (b.after (.message (.send sender dest amount fee))).store = b.store.queue tx := by
  rw [after_send, left, queuedBy]
  cases hReply : send sender dest amount fee b with
  | error refusal b' => exact Or.inl ⟨rfl, clean_send sender dest amount fee hReply⟩
  | ok id b' =>
    cases handled_send hReply with
    | queued _ hRoom => exact Or.inr ⟨_, rfl, hRoom, rfl, rfl⟩

theorem exists_send_of_queuedBy {tx : Transfer} (h : b.queuedBy event = some tx) :
    ∃ sender dest amount fee, event = .message (.send sender dest amount fee) := by
  by_contra hNone
  rw [queuedBy_eq_none fun sender dest amount fee hEvent =>
    hNone ⟨sender, dest, amount, fee, hEvent⟩] at h
  cases h

theorem id_of_queuedBy {tx : Transfer} (h : b.queuedBy event = some tx) :
    tx.id.toNat = b.store.lastTransferId.toNat + 1 := by
  obtain ⟨sender, dest, amount, fee, rfl⟩ := exists_send_of_queuedBy h
  rcases b.queuedBy_send sender dest amount fee with ⟨hNone, -⟩ | ⟨tx', hSome, hRoom, hId, -⟩
  · rw [hNone] at h
    cases h
  · rw [hSome] at h
    cases h
    rw [hId, toNat_add_one hRoom]

theorem custody_perm_after (h : b.store.Sheltered) (event : Event) :
    (b.after event).store.custody ~ (b.queuedBy event).toList ++ b.store.custody := by
  by_cases hSend : ∃ sender dest amount fee, event = .message (.send sender dest amount fee)
  · obtain ⟨sender, dest, amount, fee, rfl⟩ := hSend
    rcases b.queuedBy_send sender dest amount fee with
      ⟨hNone, hSame⟩ | ⟨tx, hSome, hRoom, hId, hStore⟩
    · rw [hNone, hSame]
      exact .refl _
    · rw [hSome, hStore]
      exact Store.queue_perm (hId ▸ h.find?_next hRoom)
  · have hOther : ∀ sender dest amount fee, event ≠ .message (.send sender dest amount fee) :=
      fun sender dest amount fee hEvent => hSend ⟨sender, dest, amount, fee, hEvent⟩
    rw [queuedBy_eq_none hOther]
    exact custody_perm_of_step h (step_after b event) hOther

/-- What was kept and what was sent since is kept. -/
theorem custody_perm_run (h : b.store.Sheltered) (events : List Event) :
    (b.run events).store.custody ~ b.store.custody ++ b.sent events := by
  induction events generalizing b with
  | nil => rw [sent, List.append_nil, run, List.foldl_nil]
  | cons event events ih =>
    calc ((b.after event).run events).store.custody
      _ ~ (b.after event).store.custody ++ (b.after event).sent events :=
        ih (sheltered_step h (step_after b event))
      _ ~ ((b.queuedBy event).toList ++ b.store.custody) ++ (b.after event).sent events :=
        (custody_perm_after h event).append_right _
      _ ~ (b.store.custody ++ (b.queuedBy event).toList) ++ (b.after event).sent events :=
        List.perm_append_comm.append_right _
      _ = b.store.custody ++ b.sent (event :: events) := List.append_assoc _ _ _

theorem custody_run_perm (h : b.store.Housed) (events : List Event) :
    (b.run events).store.custody ~ b.store.custody ++ b.sent events :=
  custody_perm_run h.sheltered events

/-- Ids are given out one after the other. -/
theorem ids_sent (h : b.store.Housed) (events : List Event) :
    (b.sent events).map (fun tx => tx.id.toNat) =
      List.range' (b.store.custody.length + 1) (b.sent events).length := by
  induction events generalizing b with
  | nil => rfl
  | cons event events ih =>
    have hRest := ih (housed_step h (step_after b event))
    rw [(custody_perm_after h.sheltered event).length_eq] at hRest
    rw [sent]
    cases hQueued : b.queuedBy event with
    | none =>
      rw [hQueued] at hRest
      exact hRest
    | some tx =>
      rw [hQueued] at hRest
      rw [Option.toList_some, List.singleton_append, List.map_cons, List.length_cons,
        List.range'_succ, id_of_queuedBy hQueued, ← h.length_custody, hRest, Option.toList_some,
        List.singleton_append, List.length_cons]

/-! ## Custody -/

/-- **Custody.** In a run from an empty store the ids of all transfers, waiting or in batches, are
the numbers from one to the last id, each once, and the transfers are those that were sent, under
the ids that the answers told one after the other. Batches hold transfers of their contract. An
executed batch stays as it is, and its transfers are never again in the pool or in another
batch. -/
theorem custody_run (origin : Bridge) (events : List Event) :
    let b := origin.blank.run events
    (b.store.custody.map fun tx => tx.id.toNat) ~ List.range' 1 b.store.lastTransferId.toNat ∧
    b.store.custody ~ origin.blank.sent events ∧
    (origin.blank.sent events).map (fun tx => tx.id.toNat) =
      List.range' 1 b.store.lastTransferId.toNat ∧
    (∀ batch ∈ b.store.batches.values, ∀ tx ∈ batch.elements, tx.contract = batch.contract) ∧
    (∀ batch ∈ b.store.batches.values, batch.status = .executed → ∀ later,
      batch ∈ (b.run later).store.batches.values ∧
      ∀ tx ∈ batch.elements,
        (∀ waiting ∈ (b.run later).store.transfers.values, waiting.id ≠ tx.id) ∧
        (∀ other ∈ (b.run later).store.batches.values, ∀ tx' ∈ other.elements,
          tx'.id = tx.id → other = batch)) := by
  intro b
  have hHoused : b.store.Housed := housed_run Store.housed_empty events
  have hSent : b.store.custody ~ origin.blank.sent events :=
    custody_run_perm Store.housed_empty events
  refine ⟨hHoused.ids, hSent, ?_, hHoused.uniform, fun batch hMem hStatus later => ?_⟩
  · rw [ids_sent Store.housed_empty events, ← hSent.length_eq, hHoused.length_custody]
    rfl
  have hHoused' := housed_run hHoused later
  have hStored := find?_batch_run hHoused (hHoused.shelf.mem_values_iff.mp hMem)
    (Batch.isPending_of_executed hStatus) later
  refine ⟨Table.mem_values_of_find? hStored, fun tx hTx => ⟨fun waiting hWaiting hId => ?_,
    fun other hOther tx' hTx' => hHoused'.only_batch hStored hTx hOther hTx'⟩⟩
  have hAway := (hHoused'.not_waiting hStored).2 tx hTx
  rw [← hId, hHoused'.find?_of_mem hWaiting] at hAway
  cases hAway

end Bridge

end TokenBridge

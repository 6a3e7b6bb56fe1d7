import TokenBridge.Proofs.Valsets.Newest
import TokenBridge.Proofs.Withdrawals.Assembly

/-!
# The selection of a batch

The transfers of a contract that wait are ranked by fee, the older ones first where fees are equal,
and a batch takes the first ones. Since ids tell transfers apart the ranking is strict, and what is
taken is the same whatever the order in which the pool is listed.

* `Transfer.Precedes`: the order of selection; `pairwise_ranking`: the ranking is strict;
* `Foremost`, `foremost_selection`: what a batch takes; `Foremost.unique`: it is determined;
* `anchor_eq_ok`: a batch is bound to the signer set with the highest nonce;
* `Store.takeBatch_eq_filter`: what the making of a batch changes;
* `selection_run`: all of it along a run from an empty store.
-/

namespace TokenBridge

namespace Transfer

variable {x y z : Transfer}

/-- The order of selection: a higher fee, or the same fee and a lower id. -/
def Precedes (x y : Transfer) : Prop :=
  y.fee.amount.toNat < x.fee.amount.toNat ∨
    x.fee.amount.toNat = y.fee.amount.toNat ∧ x.id.toNat < y.id.toNat

instance : DecidableRel Precedes :=
  fun _ _ => inferInstanceAs (Decidable (_ ∨ _))

theorem Precedes.asymm (h : x.Precedes y) : ¬y.Precedes x := by
  rw [Precedes] at *
  omega

theorem feeLe_iff :
    x.feeLe y = true ↔ y.fee.amount.toNat < x.fee.amount.toNat ∨
      x.fee.amount.toNat = y.fee.amount.toNat ∧ x.id.toNat ≤ y.id.toNat := by
  have hFees : x.fee.amount = y.fee.amount ↔ x.fee.amount.toNat = y.fee.amount.toNat :=
    ⟨congrArg Amount.toNat, Amount.ext⟩
  rw [feeLe, Bool.or_eq_true, Bool.and_eq_true, decide_eq_true_iff, decide_eq_true_iff,
    beq_iff_eq, hFees]

theorem feeLe_total (x y : Transfer) : (x.feeLe y || y.feeLe x) = true := by
  rw [Bool.or_eq_true, feeLe_iff, feeLe_iff]
  omega

theorem feeLe_trans (x y z : Transfer) (hxy : x.feeLe y = true) (hyz : y.feeLe z = true) :
    x.feeLe z = true := by
  rw [feeLe_iff] at *
  omega

theorem precedes_of_feeLe (h : x.feeLe y = true) (hIds : x.id ≠ y.id) : x.Precedes y := by
  have hNe : x.id.toNat ≠ y.id.toNat := fun hEq => hIds (UInt64.toNat_inj.mp hEq)
  rw [feeLe_iff] at h
  rw [Precedes]
  omega

end Transfer

/-- What the making of a batch changes: its transfers leave the pool, and it is stored. -/
theorem Store.takeBatch_eq_filter (s : Store) (batch : Batch) :
    s.takeBatch batch =
      { s with
        transfers := s.transfers.filter fun id _ => decide (id ∉ batch.elements.map Transfer.id)
        batches := s.batches.insert (batch.contract, batch.nonce) batch
        lastBatchNonce := batch.nonce } := by
  rw [takeBatch_eq, Table.foldl_erase_eq_filter]

namespace Bridge

variable {b b' : Bridge} {contract : EthAddress} {tx : Transfer}

/-! ## Rankings -/

theorem pairwise_ranking (hKeyed : b.store.transfers.KeyedBy Transfer.id)
    (contract : EthAddress) : (b.ranking contract).Pairwise Transfer.Precedes := by
  have hSorted : (b.ranking contract).Pairwise fun x y => x.feeLe y = true :=
    List.pairwise_mergeSort Transfer.feeLe_trans Transfer.feeLe_total _
  have hApart : (b.ranking contract).Pairwise fun x y => x.id ≠ y.id :=
    List.pairwise_map.mp (nodup_ranking hKeyed contract)
  exact hSorted.imp₂ (fun _ _ => Transfer.precedes_of_feeLe) hApart

/-- The transfers are the first ones of a contract in the order of selection, as many as fit. -/
structure Foremost (b : Bridge) (contract : EthAddress) (elements : List Transfer) : Prop where
  waiting : ∀ tx ∈ elements, tx ∈ b.store.transfersOf contract
  ordered : elements.Pairwise Transfer.Precedes
  length : elements.length =
    min b.params.batchSize.toNat (b.store.transfersOf contract).length
  ahead : ∀ tx ∈ b.store.transfersOf contract, tx ∉ elements →
    ∀ taken ∈ elements, taken.Precedes tx

/-- **What a batch takes.** -/
theorem foremost_selection (hKeyed : b.store.transfers.KeyedBy Transfer.id)
    (contract : EthAddress) : b.Foremost contract (b.selection contract) := by
  have hSplit : b.selection contract ++ (b.ranking contract).drop b.params.batchSize.toNat =
      b.ranking contract := List.take_append_drop _ _
  have hRanked := pairwise_ranking hKeyed contract
  rw [← hSplit] at hRanked
  obtain ⟨hOrdered, -, hAhead⟩ := List.pairwise_append.mp hRanked
  refine ⟨fun tx hMem => ?_, hOrdered, ?_, fun tx hMem hLeft taken hTaken => ?_⟩
  · exact mem_ranking.mp (List.mem_of_mem_take hMem)
  · rw [← length_ranking]
    exact List.length_take
  · have hRank := mem_ranking.mpr hMem
    rw [← hSplit] at hRank
    exact hAhead taken hTaken tx ((List.mem_append.mp hRank).resolve_left hLeft)

theorem nodup_of_ordered {l : List Transfer} (h : l.Pairwise Transfer.Precedes) : l.Nodup :=
  h.imp fun hBefore hSame => (hSame ▸ hBefore).asymm (hSame ▸ hBefore)

/-- There is only one choice of the first ones. -/
theorem Foremost.unique {l m : List Transfer} (hl : b.Foremost contract l)
    (hm : b.Foremost contract m) : l = m := by
  have hLength : l.length = m.length := hl.length.trans hm.length.symm
  have hSubset : l ⊆ m := by
    intro x hx
    by_contra hLeft
    -- What is in one of the lists alone comes before and after what is in the other one alone.
    have hBack : m ⊆ l := by
      intro y hy
      by_contra hOut
      exact (hl.ahead y (hm.waiting y hy) hOut x hx).asymm
        (hm.ahead x (hl.waiting x hx) hLeft y hy)
    have hSame : m.Perm l := ((nodup_of_ordered hm.ordered).subperm hBack).perm_of_length_le
      (Nat.le_of_eq hLength)
    exact hLeft (hSame.mem_iff.mpr hx)
  have hPerm : l.Perm m := ((nodup_of_ordered hl.ordered).subperm hSubset).perm_of_length_le
    (Nat.le_of_eq hLength.symm)
  exact hPerm.eq_of_pairwise (fun _ _ _ _ hxy hyx => absurd hyx hxy.asymm) hl.ordered hm.ordered

/-! ## Batches -/

theorem anchor_eq_ok {v : Valset} (hKeyed : b.store.valsets.KeyedBy Valset.nonce)
    (h : b.anchor = .ok v) :
    v ∈ b.store.valsets.values ∧ ∀ w ∈ b.store.valsets.values, w.nonce ≤ v.nonce := by
  rw [anchor] at h
  cases hLast : b.store.latestValset? with
  | none =>
    rw [hLast] at h
    cases h
  | some newest =>
    rw [hLast] at h
    cases h
    refine ⟨List.mem_of_getLast? hLast, fun w hMem => ?_⟩
    have hNewest : b.store.newestValset = v.nonce := by
      rw [Store.newestValset, hLast]
      rfl
    exact hNewest ▸ Store.le_newestValset hKeyed ((Store.mem_valsets_iff hKeyed).mp hMem)

/-! ## Runs -/

/-- **Selection.** In a run from an empty store let a batch be built. Its elements are the first
waiting transfers of the contract in strictly falling order of fee and then rising order of id, as
many as fit, and they are all that leaves the pool. The batch waits, has the exact sum of the fees
and the next nonce, under which nothing was stored, and the checkpoint of the signer set with the
highest nonce. It is stored as it is returned, and nothing else changes but the count of batches. -/
theorem selection_run (origin : Bridge) (events : List Event) (contract : EthAddress)
    (batch : Batch) (b' : Bridge)
    (hBuilt : buildBatch contract (origin.blank.run events) = .ok batch b') :
    let b := origin.blank.run events
    b.Foremost contract batch.elements ∧
    batch.totalFee.amount.toNat = (batch.elements.map fun tx => tx.fee.amount.toNat).sum ∧
    batch.nonce.toNat = b.store.lastBatchNonce.toNat + 1 ∧
    (∃ v ∈ b.store.valsets.values, (∀ w ∈ b.store.valsets.values, w.nonce ≤ v.nonce) ∧
      v.checkpoint origin.params.bridgeId = .ok batch.valsetCheckpoint) ∧
    batch.contract = contract ∧ batch.status = .pending ∧
    b.store.batch? contract batch.nonce = none ∧
    b' = { b with
      store := { b.store with
        transfers :=
          b.store.transfers.filter fun id _ => decide (id ∉ batch.elements.map Transfer.id)
        batches := b.store.batches.insert (contract, batch.nonce) batch
        lastBatchNonce := batch.nonce }
      counters := b.counters.bump .batchBuilt } := by
  intro b
  have hOrderly : b.store.Orderly := orderly_run Store.orderly_empty events
  have hKept : b.params = origin.params := params_run origin.blank events
  cases handled_buildBatch hBuilt with
  | @built _ v valsetCheckpoint hash nonce _ hContract hPool hAnchor hAnchorHash hNonce hMake
      hHash =>
    obtain ⟨-, first, rest, total, hElements, hFees, rfl⟩ := Batch.make_eq_ok_iff.mp hMake
    obtain ⟨-, -, hSum⟩ := Batch.sumFees_eq_ok_iff.mp hFees
    obtain ⟨hStored, hNewest⟩ := anchor_eq_ok hOrderly.canonical.keyed hAnchor
    have hNext := following_eq_ok hNonce
    refine ⟨foremost_selection hOrderly.housed.pool contract, ?_, hNext,
      ⟨v, hStored, hNewest, ?_⟩, rfl, rfl, ?_, ?_⟩
    · exact hSum.trans (Nat.zero_add _)
    · rw [← hKept]
      exact mapError_eq_ok.mp hAnchorHash
    · have hAbove : b.store.lastBatchNonce.toNat < (Batch.mk nonce (b.selection contract) total
          contract valsetCheckpoint .pending).nonce.toNat :=
        Nat.lt_of_succ_le (Nat.le_of_eq hNext.symm)
      exact hOrderly.housed.sheltered.find?_batch_eq_none hAbove
    · rw [Store.takeBatch_eq_filter]

theorem foremost_threeWithdrawals :
    (narrow.blank.run threeWithdrawals).Foremost ⟨.ofNat 20 7⟩
      [withdrawal "USD" 2 2, withdrawal "USD" 2 3] := by
  have hWaiting := waiting_threeWithdrawals.1
  refine ⟨?_, by decide, ?_, ?_⟩
  · rw [hWaiting]
    decide
  · rw [hWaiting, params_run]
    decide
  · rw [hWaiting]
    decide

/-- Of three transfers the two with the higher fee are taken, the older one first. -/
theorem selection_of_threeWithdrawals :
    ∃ batch b', buildBatch ⟨.ofNat 20 7⟩ (narrow.blank.run threeWithdrawals) = .ok batch b' ∧
      batch.elements = [withdrawal "USD" 2 2, withdrawal "USD" 2 3] ∧
      batch.totalFee.amount.toNat = 4 ∧ batch.nonce.toNat = 1 := by
  have hParams : (narrow.blank.run threeWithdrawals).params.validate = .ok () := by
    rw [params_run]
    decide
  obtain ⟨batch, b', hBuilt⟩ := batchable_threeWithdrawals.exists_batch hParams
    (orderly_run Store.orderly_empty threeWithdrawals).valid uniform_threeWithdrawals
  obtain ⟨hForemost, hFees, hNonce, -⟩ := selection_run narrow threeWithdrawals _ batch b' hBuilt
  have hElements := hForemost.unique foremost_threeWithdrawals
  refine ⟨batch, b', hBuilt, hElements, ?_, ?_⟩
  · rw [hFees, hElements]
    decide
  · rw [hNonce, waiting_threeWithdrawals.2.2]
    decide

end Bridge

end TokenBridge

import Mathlib.Data.List.Nodup
import TokenBridge.Proofs.Store.Execution
import TokenBridge.Proofs.Table.Values

/-!
# Where transfers are

A transfer waits in the pool or is part of a batch. Making, cancelling and executing batches moves
transfers from one place to another, and loses or doubles none.

* `Batch.outlast?`: what the execution of a batch leaves of a batch;
* `custody`: all transfers, wherever they are;
* `Sheltered`: the invariant. Transfers and batches stand under their keys, and no two transfers
  have the same id;
* `queue_perm`, `takeBatch_perm`, `executeBatch_sheltered`: what each operation does to all
  transfers, and that the invariant is kept;
* `find?_executeBatch`, `mem_executeBatch`: the batches that an execution leaves;
* `Housed`: what holds besides where the first id was one. Batches hold transfers of their contract,
  and the ids of all transfers count from one to the last one given out.
-/

namespace TokenBridge

open scoped List

def Batch.key (batch : Batch) : EthAddress × Nonce :=
  (batch.contract, batch.nonce)

theorem toNat_add_one {id : UInt64} (hRoom : id.toNat + 1 ≠ UInt64.size) :
    (id + 1).toNat = id.toNat + 1 := by
  have hNext : id.toNat + 1 < UInt64.size := Nat.lt_of_le_of_ne id.toNat_lt hRoom
  rw [UInt64.toNat_add]
  exact Nat.mod_eq_of_lt hNext

/-! ## What an execution leaves of a batch -/

/-- What an execution overtakes: the batches of its contract that wait below it. -/
def Batch.Overtaken (batch : Batch) (contract : EthAddress) (nonce : Nonce) : Prop :=
  batch.isPending = true ∧ batch.contract = contract ∧ batch.nonce < nonce

instance (batch : Batch) (contract : EthAddress) (nonce : Nonce) :
    Decidable (batch.Overtaken contract nonce) :=
  inferInstanceAs (Decidable (_ ∧ _ ∧ _))

/-- A batch after the execution of the one that is named. -/
def Batch.closedAt (batch : Batch) (contract : EthAddress) (nonce : Nonce) : Batch :=
  if batch.key = (contract, nonce) then { batch with status := .executed } else batch

/-- What an execution leaves of a batch. -/
def Batch.outlast? (batch : Batch) (contract : EthAddress) (nonce : Nonce) : Option Batch :=
  if batch.Overtaken contract nonce then none else some (batch.closedAt contract nonce)

theorem Batch.outlast?_eq_some {batch left : Batch} {contract : EthAddress} {nonce : Nonce} :
    batch.outlast? contract nonce = some left ↔
      ¬batch.Overtaken contract nonce ∧ left = batch.closedAt contract nonce := by
  rw [outlast?]
  by_cases hBelow : batch.Overtaken contract nonce
  · rw [if_pos hBelow]
    exact iff_of_false nofun fun h => h.1 hBelow
  · rw [if_neg hBelow, Option.some.injEq]
    exact ⟨fun h => ⟨hBelow, h.symm⟩, fun h => h.2.symm⟩

theorem Batch.key_closedAt (batch : Batch) (contract : EthAddress) (nonce : Nonce) :
    (batch.closedAt contract nonce).key = batch.key := by
  rw [closedAt]
  split <;> rfl

theorem Batch.closedAt_of_done {batch : Batch} (h : batch.isPending = false)
    (contract : EthAddress) (nonce : Nonce) : batch.closedAt contract nonce = batch := by
  have hStatus : batch.status = .executed := by
    cases hStatus : batch.status with
    | executed => rfl
    | pending => simp [isPending, hStatus] at h
  rw [closedAt, ← hStatus]
  exact ite_self batch

/-- The batch that is named is not below itself. -/
theorem Batch.overtaken_closedAt {batch : Batch} {contract : EthAddress} {nonce : Nonce} :
    (batch.closedAt contract nonce).Overtaken contract nonce ↔ batch.Overtaken contract nonce := by
  by_cases hNamed : batch.key = (contract, nonce)
  · have hNot (status : BatchStatus) : ¬({ batch with status } : Batch).Overtaken contract nonce :=
      fun h => Nat.lt_irrefl _ ((Prod.mk.inj hNamed).2 ▸ h.2.2)
    rw [closedAt, if_pos hNamed]
    exact iff_of_false (hNot _) (hNot batch.status)
  · rw [closedAt, if_neg hNamed]

/-! ## All transfers -/

namespace Store

def batched (s : Store) : List Transfer :=
  s.batches.values.flatMap Batch.elements

/-- All transfers: those that wait in the pool and those in batches. -/
def custody (s : Store) : List Transfer :=
  s.transfers.values ++ s.batched

/-- Every transfer is kept once, under an id that was given out, and no batch is above the last
nonce given out. -/
structure Sheltered (s : Store) : Prop where
  pool : s.transfers.KeyedBy Transfer.id
  shelf : s.batches.KeyedBy Batch.key
  behind : ∀ batch ∈ s.batches.values, batch.nonce.toNat ≤ s.lastBatchNonce.toNat
  apart : (s.custody.map Transfer.id).Nodup
  issued : ∀ tx ∈ s.custody, tx.id.toNat ≤ s.lastTransferId.toNat

variable {s s' : Store} {batch : Batch} {tx : Transfer} {contract : EthAddress} {nonce : Nonce}

/-- What matters to transfers is the same in two stores. -/
structure SameTransfers (s s' : Store) : Prop where
  transfers : s'.transfers = s.transfers
  batches : s'.batches = s.batches
  lastTransferId : s'.lastTransferId = s.lastTransferId
  lastBatchNonce : s'.lastBatchNonce = s.lastBatchNonce

theorem SameTransfers.custody_eq (h : SameTransfers s s') : s'.custody = s.custody := by
  rw [custody, custody, batched, batched, h.transfers, h.batches]

/-- The invariant is kept where all transfers stay. -/
theorem Sheltered.of_perm (h : s.Sheltered) (hPool : s'.transfers.KeyedBy Transfer.id)
    (hShelf : s'.batches.KeyedBy Batch.key)
    (hBehind : ∀ batch ∈ s'.batches.values, batch.nonce.toNat ≤ s'.lastBatchNonce.toNat)
    (hPerm : s'.custody.Perm s.custody) (hLast : s'.lastTransferId = s.lastTransferId) :
    s'.Sheltered where
  pool := hPool
  shelf := hShelf
  behind := hBehind
  apart := (hPerm.map _).nodup_iff.mpr h.apart
  issued tx hMem := by
    rw [hLast]
    exact h.issued tx (hPerm.subset hMem)

theorem SameTransfers.sheltered (h : SameTransfers s s') (hSheltered : s.Sheltered) :
    s'.Sheltered := by
  refine hSheltered.of_perm ?_ ?_ ?_ ?_ h.lastTransferId
  · exact h.transfers ▸ hSheltered.pool
  · exact h.batches ▸ hSheltered.shelf
  · rw [h.batches, h.lastBatchNonce]
    exact hSheltered.behind
  · rw [h.custody_eq]

theorem batched_perm (h : s.batches.find? batch.key = some batch) :
    s.batched.Perm (batch.elements ++ (s.batches.erase batch.key).values.flatMap Batch.elements) :=
  (Table.perm_values_of_find? h).flatMap_right _

/-! ## Queueing -/

theorem queue_perm (hNew : s.transfers.find? tx.id = none) :
    (s.queue tx).custody.Perm (tx :: s.custody) :=
  (Table.perm_values_insert_of_none hNew).append_right _

theorem Sheltered.find?_next (h : s.Sheltered)
    (hRoom : s.lastTransferId.toNat + 1 ≠ UInt64.size) :
    s.transfers.find? (s.lastTransferId + 1) = none := by
  cases hFound : s.transfers.find? (s.lastTransferId + 1) with
  | none => rfl
  | some tx =>
    have hMem : tx ∈ s.custody := List.mem_append_left _ (Table.mem_values_of_find? hFound)
    have hId : tx.id = s.lastTransferId + 1 := h.pool _ _ hFound
    have hIssued := h.issued tx hMem
    rw [hId, toNat_add_one hRoom] at hIssued
    omega

theorem Sheltered.queue (h : s.Sheltered) (hRoom : s.lastTransferId.toNat + 1 ≠ UInt64.size)
    (hId : tx.id = s.lastTransferId + 1) : (s.queue tx).Sheltered := by
  have hPerm := queue_perm (hId ▸ h.find?_next hRoom : s.transfers.find? tx.id = none)
  have hNext : tx.id.toNat = s.lastTransferId.toNat + 1 := by rw [hId, toNat_add_one hRoom]
  refine ⟨h.pool.insert tx, h.shelf, h.behind, (hPerm.map _).nodup_iff.mpr ?_, fun kept hMem => ?_⟩
  · refine List.nodup_cons.mpr ⟨fun hUsed => ?_, h.apart⟩
    obtain ⟨kept, hKept, hSame⟩ := List.mem_map.mp hUsed
    have hIssued := h.issued kept hKept
    rw [hSame, hNext] at hIssued
    omega
  · show kept.id.toNat ≤ tx.id.toNat
    rcases List.mem_cons.mp (hPerm.subset hMem) with rfl | hKept
    · exact Nat.le_refl _
    · have hIssued := h.issued kept hKept
      omega

/-! ## Making a batch -/

theorem Sheltered.find?_batch_eq_none (h : s.Sheltered)
    (hNonce : s.lastBatchNonce.toNat < batch.nonce.toNat) :
    s.batches.find? batch.key = none := by
  cases hFound : s.batches.find? batch.key with
  | none => rfl
  | some old =>
    have hBehind := h.behind old (Table.mem_values_of_find? hFound)
    have hKey : old.nonce = batch.nonce := congrArg Prod.snd (h.shelf _ _ hFound)
    rw [hKey] at hBehind
    omega

theorem takeBatch_perm (h : s.Sheltered) (hNonce : s.lastBatchNonce.toNat < batch.nonce.toNat)
    (hNodup : (batch.elements.map Transfer.id).Nodup)
    (hWaiting : ∀ tx ∈ batch.elements, tx ∈ s.transfers.values) :
    (s.takeBatch batch).custody.Perm s.custody := by
  have hPool : s.transfers.values.Perm
      (batch.elements ++ (s.takeBatch batch).transfers.values) := by
    rw [takeBatch_eq]
    exact Table.perm_values_foldl_erase hNodup fun tx hMem =>
      h.pool.mem_values_iff.mp (hWaiting tx hMem)
  have hShelf : (s.takeBatch batch).batched.Perm (batch.elements ++ s.batched) := by
    rw [takeBatch_eq]
    exact (Table.perm_values_insert_of_none (h.find?_batch_eq_none hNonce)).flatMap_right _
  calc (s.takeBatch batch).transfers.values ++ (s.takeBatch batch).batched
    _ ~ (s.takeBatch batch).transfers.values ++ (batch.elements ++ s.batched) :=
      hShelf.append_left _
    _ = ((s.takeBatch batch).transfers.values ++ batch.elements) ++ s.batched :=
      (List.append_assoc _ _ _).symm
    _ ~ (batch.elements ++ (s.takeBatch batch).transfers.values) ++ s.batched :=
      List.perm_append_comm.append_right _
    _ ~ s.custody := (hPool.append_right _).symm

theorem Sheltered.takeBatch (h : s.Sheltered)
    (hNonce : s.lastBatchNonce.toNat < batch.nonce.toNat)
    (hNodup : (batch.elements.map Transfer.id).Nodup)
    (hWaiting : ∀ tx ∈ batch.elements, tx ∈ s.transfers.values) :
    (s.takeBatch batch).Sheltered := by
  refine h.of_perm ?_ ?_ (fun other hMem => ?_) (takeBatch_perm h hNonce hNodup hWaiting) ?_
  · rw [takeBatch_eq]
    exact h.pool.foldl_erase batch.elements
  · rw [takeBatch_eq]
    exact h.shelf.insert batch
  · rw [takeBatch_eq] at hMem ⊢
    rcases Table.mem_values_of_insert hMem with rfl | hOld
    · exact Nat.le_refl _
    · exact Nat.le_trans (h.behind other hOld) (Nat.le_of_lt hNonce)
  · rw [takeBatch_eq]

/-! ## Cancelling batches -/

/-- The transfers of a stored batch are told apart, and none of them waits. -/
theorem Sheltered.not_waiting (h : s.Sheltered) (hStored : s.batches.find? batch.key = some batch) :
    (batch.elements.map Transfer.id).Nodup ∧
      ∀ tx ∈ batch.elements, s.transfers.find? tx.id = none := by
  have hPerm := ((batched_perm hStored).append_left s.transfers.values).map Transfer.id
  have hNodup := hPerm.nodup_iff.mp h.apart
  rw [List.map_append, List.map_append, List.nodup_append] at hNodup
  obtain ⟨-, hBatched, hApart⟩ := hNodup
  refine ⟨(List.nodup_append.mp hBatched).1, fun tx hMem => ?_⟩
  cases hFound : s.transfers.find? tx.id with
  | none => rfl
  | some waiting =>
    have hId : waiting.id = tx.id := h.pool _ _ hFound
    have hWaiting := List.mem_map_of_mem (f := Transfer.id) (Table.mem_values_of_find? hFound)
    exact absurd hId (hApart _ hWaiting _ (List.mem_append_left _ (List.mem_map_of_mem hMem)))

theorem cancelBatch_perm (h : s.Sheltered) (hStored : s.batches.find? batch.key = some batch) :
    (s.cancelBatch batch).custody.Perm s.custody := by
  obtain ⟨hNodup, hAway⟩ := h.not_waiting hStored
  have hPool : (s.cancelBatch batch).transfers.values.Perm
      (batch.elements ++ s.transfers.values) := by
    rw [cancelBatch_eq]
    exact Table.perm_values_foldl_insert hNodup hAway
  have hShelf : s.batched.Perm (batch.elements ++ (s.cancelBatch batch).batched) := by
    rw [cancelBatch_eq]
    exact batched_perm hStored
  calc (s.cancelBatch batch).transfers.values ++ (s.cancelBatch batch).batched
    _ ~ (batch.elements ++ s.transfers.values) ++ (s.cancelBatch batch).batched :=
      hPool.append_right _
    _ ~ (s.transfers.values ++ batch.elements) ++ (s.cancelBatch batch).batched :=
      List.perm_append_comm.append_right _
    _ = s.transfers.values ++ (batch.elements ++ (s.cancelBatch batch).batched) :=
      List.append_assoc _ _ _
    _ ~ s.custody := (hShelf.append_left _).symm

theorem Sheltered.cancelBatch (h : s.Sheltered)
    (hStored : s.batches.find? batch.key = some batch) : (s.cancelBatch batch).Sheltered := by
  refine h.of_perm ?_ ?_ (fun other hMem => ?_) (cancelBatch_perm h hStored) ?_
  · rw [cancelBatch_eq]
    exact h.pool.foldl_insert batch.elements
  · rw [cancelBatch_eq]
    exact h.shelf.erase batch.key
  · rw [cancelBatch_eq] at hMem ⊢
    exact h.behind other (Table.mem_values_of_erase hMem)
  · rw [cancelBatch_eq]

theorem find?_cancelBatch (s : Store) (batch : Batch) (key : EthAddress × Nonce) :
    (s.cancelBatch batch).batches.find? key =
      if key = batch.key then none else s.batches.find? key := by
  rw [cancelBatch_eq]
  exact Table.find?_erase _ _ _

theorem foldl_cancelBatch_sheltered {l : List Batch} (h : s.Sheltered)
    (hNodup : (l.map Batch.key).Nodup)
    (hStored : ∀ batch ∈ l, s.batches.find? batch.key = some batch) :
    (l.foldl Store.cancelBatch s).Sheltered ∧
      (l.foldl Store.cancelBatch s).custody.Perm s.custody := by
  induction l generalizing s with
  | nil => exact ⟨h, .refl _⟩
  | cons first rest ih =>
    obtain ⟨hFirst, hRest⟩ := List.nodup_cons.mp hNodup
    have hStoredFirst := hStored first List.mem_cons_self
    have hStoredRest : ∀ batch ∈ rest,
        (s.cancelBatch first).batches.find? batch.key = some batch := by
      intro batch hMem
      have hNe : batch.key ≠ first.key := fun hEq => hFirst (hEq ▸ List.mem_map_of_mem hMem)
      rw [find?_cancelBatch, if_neg hNe]
      exact hStored batch (List.mem_cons_of_mem _ hMem)
    obtain ⟨hSheltered, hPerm⟩ := ih (h.cancelBatch hStoredFirst) hRest hStoredRest
    exact ⟨hSheltered, hPerm.trans (cancelBatch_perm h hStoredFirst)⟩

theorem find?_foldl_cancelBatch (l : List Batch) (s : Store) (key : EthAddress × Nonce) :
    (l.foldl Store.cancelBatch s).batches.find? key =
      if key ∈ l.map Batch.key then none else s.batches.find? key := by
  induction l generalizing s with
  | nil => simp
  | cons first rest ih =>
    rw [List.foldl_cons, ih, find?_cancelBatch, List.map_cons]
    by_cases hRest : key ∈ rest.map Batch.key
    · rw [if_pos hRest, if_pos (List.mem_cons_of_mem _ hRest)]
    · rw [if_neg hRest]
      simp only [List.mem_cons, hRest, or_false]

/-! ## Executing a batch -/

/-- Closing a batch changes its status only, and leaves none pending under the key. -/
theorem closeBatch_cases (s : Store) (contract : EthAddress) (nonce : Nonce) :
    (s.closeBatch contract nonce = s ∧
      ∀ batch, s.batches.find? (contract, nonce) = some batch → batch.isPending = false) ∨
    ∃ batch, s.batches.find? (contract, nonce) = some batch ∧ batch.isPending = true ∧
      s.closeBatch contract nonce = s.putBatch { batch with status := .executed } := by
  rw [closeBatch, batch?]
  cases hFound : s.batches.find? (contract, nonce) with
  | none => exact Or.inl ⟨rfl, fun _ hNone => by cases hNone⟩
  | some batch =>
    by_cases hPending : batch.isPending = true
    · exact Or.inr ⟨batch, rfl, hPending, if_pos hPending⟩
    · refine Or.inl ⟨if_neg hPending, fun other hOther => ?_⟩
      rw [← Option.some.inj hOther]
      exact Bool.eq_false_iff.mpr hPending

theorem keyed_closeBatch (h : s.batches.KeyedBy Batch.key) (contract : EthAddress)
    (nonce : Nonce) : (s.closeBatch contract nonce).batches.KeyedBy Batch.key := by
  rcases s.closeBatch_cases contract nonce with ⟨hSame, -⟩ | ⟨batch, -, -, hClosed⟩
  · rwa [hSame]
  · rw [hClosed]
    exact h.insert { batch with status := .executed }

theorem closeBatch_sheltered (h : s.Sheltered) (contract : EthAddress) (nonce : Nonce) :
    (s.closeBatch contract nonce).Sheltered ∧
      (s.closeBatch contract nonce).custody.Perm s.custody := by
  have hShelf := keyed_closeBatch h.shelf contract nonce
  rcases s.closeBatch_cases contract nonce with ⟨hSame, -⟩ | ⟨batch, hFound, -, hClosed⟩
  · rw [hSame]
    exact ⟨h, .refl _⟩
  · rw [hClosed] at hShelf ⊢
    have hKey : batch.key = (contract, nonce) := h.shelf _ _ hFound
    have hStored : s.batches.find? batch.key = some batch := hKey ▸ hFound
    have hPerm : (s.putBatch { batch with status := .executed }).custody.Perm s.custody := by
      refine List.Perm.append_left _ (.trans ?_ (batched_perm hStored).symm)
      exact (Table.perm_values_insert _ _ _).flatMap_right _
    refine ⟨h.of_perm h.pool hShelf (fun other hMem => ?_) hPerm rfl, hPerm⟩
    rcases Table.mem_values_of_insert hMem with rfl | hOld
    · exact h.behind batch (Table.mem_values_of_find? hFound)
    · exact h.behind other hOld

theorem find?_closeBatch (hShelf : s.batches.KeyedBy Batch.key) (contract : EthAddress)
    (nonce : Nonce) (key : EthAddress × Nonce) :
    (s.closeBatch contract nonce).batches.find? key =
      (s.batches.find? key).map fun batch => batch.closedAt contract nonce := by
  rcases s.closeBatch_cases contract nonce with ⟨hSame, hDone⟩ | ⟨old, hOld, -, hClosed⟩
  · rw [hSame]
    cases hFound : s.batches.find? key with
    | none => rfl
    | some batch =>
      refine congrArg some (Eq.symm ?_)
      by_cases hNamed : batch.key = (contract, nonce)
      · rw [← hShelf _ _ hFound, hNamed] at hFound
        exact batch.closedAt_of_done (hDone batch hFound) contract nonce
      · exact if_neg hNamed
  · have hOldKey : old.key = (contract, nonce) := hShelf _ _ hOld
    rw [hClosed, putBatch, Table.find?_insert]
    by_cases hKey : key = old.key
    · rw [hKey, hOldKey, hOld, Option.map_some, Batch.closedAt, if_pos hOldKey]
      exact if_pos hOldKey.symm
    · refine (if_neg hKey).trans ?_
      cases hFound : s.batches.find? key with
      | none => rfl
      | some batch =>
        have hOther : batch.key ≠ (contract, nonce) := fun hNamed =>
          hKey ((hShelf _ _ hFound).symm.trans (hNamed.trans hOldKey.symm))
        exact congrArg some (if_neg hOther).symm

theorem mem_superseded :
    batch ∈ s.superseded contract nonce ↔
      batch ∈ s.batches.values ∧ batch.Overtaken contract nonce := by
  simp only [superseded, pendingBatchesOf, pendingBatches, List.mem_filter, and_assoc, beq_iff_eq,
    decide_eq_true_eq, Batch.Overtaken]

theorem mem_key_superseded (hShelf : s.batches.KeyedBy Batch.key) {key : EthAddress × Nonce} :
    key ∈ ((s.closeBatch contract nonce).superseded contract nonce).map Batch.key ↔
      ∃ batch, s.batches.find? key = some batch ∧ batch.Overtaken contract nonce := by
  have hClosed := keyed_closeBatch hShelf contract nonce
  simp only [List.mem_map, mem_superseded, hClosed.mem_values_iff, find?_closeBatch hShelf,
    Option.map_eq_some_iff]
  constructor
  · rintro ⟨_, ⟨⟨batch, hFound, rfl⟩, hBelow⟩, rfl⟩
    exact ⟨batch, hFound, Batch.overtaken_closedAt.mp hBelow⟩
  · rintro ⟨batch, hFound, hBelow⟩
    have hKey : (batch.closedAt contract nonce).key = key :=
      (batch.key_closedAt contract nonce).trans (hShelf _ _ hFound)
    exact ⟨_, ⟨⟨batch, hKey ▸ hFound, rfl⟩, Batch.overtaken_closedAt.mpr hBelow⟩, hKey⟩

/-- **The batches after an execution.** -/
theorem find?_executeBatch (hShelf : s.batches.KeyedBy Batch.key) (contract : EthAddress)
    (nonce : Nonce) (key : EthAddress × Nonce) :
    (s.executeBatch contract nonce).batches.find? key =
      (s.batches.find? key).bind fun batch => batch.outlast? contract nonce := by
  rw [executeBatch, find?_foldl_cancelBatch, find?_closeBatch hShelf]
  simp only [mem_key_superseded hShelf]
  cases hFound : s.batches.find? key with
  | none => exact ite_self none
  | some batch => simp only [Option.some.injEq, exists_eq_left', Option.map_some, Option.bind_some,
      Batch.outlast?]

/-- The execution of a batch moves transfers, and loses or doubles none. -/
theorem executeBatch_sheltered (h : s.Sheltered) (contract : EthAddress) (nonce : Nonce) :
    (s.executeBatch contract nonce).Sheltered ∧
      (s.executeBatch contract nonce).custody.Perm s.custody := by
  obtain ⟨hClosed, hPerm⟩ := closeBatch_sheltered h contract nonce
  have hSublist : ((s.closeBatch contract nonce).superseded contract nonce).Sublist
      (s.closeBatch contract nonce).batches.values :=
    (List.filter_sublist.trans List.filter_sublist).trans List.filter_sublist
  obtain ⟨hSheltered, hPerm'⟩ := foldl_cancelBatch_sheltered hClosed
    (hClosed.shelf.nodup.sublist (hSublist.map Batch.key))
    fun batch hMem => hClosed.shelf.mem_values_iff.mp (mem_superseded.mp hMem).1
  exact ⟨hSheltered, hPerm'.trans hPerm⟩

/-- An execution leaves a batch as it was, and then it is not one that can no more be executed; or
it closes the batch that it names. -/
theorem mem_executeBatch (hShelf : s.batches.KeyedBy Batch.key)
    (hMem : batch ∈ (s.executeBatch contract nonce).batches.values) :
    (batch ∈ s.batches.values ∧
      (batch.isPending = true → batch.contract = contract → nonce < batch.nonce)) ∨
    ∃ old ∈ s.batches.values, old.isPending = true ∧ old.key = (contract, nonce) ∧
      batch = { old with status := .executed } := by
  obtain ⟨key, hFound⟩ := Table.mem_values_iff.mp hMem
  rw [find?_executeBatch hShelf] at hFound
  obtain ⟨old, hOld, hLeft⟩ := Option.bind_eq_some_iff.mp hFound
  obtain ⟨hBelow, rfl⟩ := Batch.outlast?_eq_some.mp hLeft
  have hStored := Table.mem_values_of_find? hOld
  by_cases hPending : old.isPending = true
  · by_cases hNamed : old.key = (contract, nonce)
    · exact Or.inr ⟨old, hStored, hPending, hNamed, if_pos hNamed⟩
    · rw [show old.closedAt contract nonce = old from if_neg hNamed]
      refine Or.inl ⟨hStored, fun _ hContract => ?_⟩
      have hNe : old.nonce.toNat ≠ nonce.toNat := fun hEq =>
        hNamed (Prod.ext hContract (congrArg Nonce.mk (UInt64.toNat_inj.mp hEq)))
      have hNotBelow : ¬old.nonce < nonce := fun hLess => hBelow ⟨hPending, hContract, hLess⟩
      exact Nat.lt_of_le_of_ne (Nat.le_of_not_lt hNotBelow) hNe.symm
  · have hDone := Bool.eq_false_iff.mpr hPending
    rw [old.closedAt_of_done hDone]
    exact Or.inl ⟨hStored, fun hWaits => absurd hWaits hPending⟩

theorem find?_executeBatch_of_done (hShelf : s.batches.KeyedBy Batch.key)
    (hStored : s.batches.find? batch.key = some batch) (hDone : batch.isPending = false)
    (contract : EthAddress) (nonce : Nonce) :
    (s.executeBatch contract nonce).batches.find? batch.key = some batch := by
  have hNot : ¬batch.Overtaken contract nonce := fun h => Bool.eq_false_iff.mp hDone h.1
  rw [find?_executeBatch hShelf, hStored, Option.bind_some]
  exact Batch.outlast?_eq_some.mpr ⟨hNot, (batch.closedAt_of_done hDone contract nonce).symm⟩

/-! ## Stores from the first id on -/

/-- Transfers and batches are in order. -/
structure Housed (s : Store) : Prop where
  pool : s.transfers.KeyedBy Transfer.id
  shelf : s.batches.KeyedBy Batch.key
  behind : ∀ batch ∈ s.batches.values, batch.nonce.toNat ≤ s.lastBatchNonce.toNat
  uniform : ∀ batch ∈ s.batches.values, ∀ tx ∈ batch.elements, tx.contract = batch.contract
  ids : (s.custody.map fun tx => tx.id.toNat).Perm (List.range' 1 s.lastTransferId.toNat)

theorem housed_empty : empty.Housed where
  pool := Table.keyedBy_empty _
  shelf := Table.keyedBy_empty _
  behind _ h := absurd h List.not_mem_nil
  uniform _ h := absurd h List.not_mem_nil
  ids := .refl _

theorem Housed.id_mem_range (h : s.Housed) (hMem : tx ∈ s.custody) :
    0 < tx.id.toNat ∧ tx.id.toNat ≤ s.lastTransferId.toNat := by
  have hRange := List.mem_range'_1.mp (h.ids.subset (List.mem_map_of_mem hMem))
  omega

theorem Housed.sheltered (h : s.Housed) : s.Sheltered where
  pool := h.pool
  shelf := h.shelf
  behind := h.behind
  apart := by
    have hIds : (s.custody.map fun tx => tx.id.toNat).Nodup :=
      h.ids.nodup_iff.mpr List.nodup_range'
    rw [← Function.comp_def UInt64.toNat Transfer.id, ← List.map_map] at hIds
    exact hIds.of_map _
  issued _ hMem := (h.id_mem_range hMem).2

/-- As many transfers are kept as ids were given out. -/
theorem Housed.length_custody (h : s.Housed) : s.custody.length = s.lastTransferId.toNat := by
  have hLength := h.ids.length_eq
  rwa [List.length_map, List.length_range'] at hLength

/-- The ids still count from one where all transfers stay. -/
theorem Housed.of_sheltered (h : s.Housed) (hSheltered : s'.Sheltered)
    (hUniform : ∀ batch ∈ s'.batches.values, ∀ tx ∈ batch.elements, tx.contract = batch.contract)
    (hPerm : s'.custody.Perm s.custody) (hLast : s'.lastTransferId = s.lastTransferId) :
    s'.Housed where
  pool := hSheltered.pool
  shelf := hSheltered.shelf
  behind := hSheltered.behind
  uniform := hUniform
  ids := by
    rw [hLast]
    exact (hPerm.map _).trans h.ids

theorem SameTransfers.housed (h : SameTransfers s s') (hHoused : s.Housed) : s'.Housed := by
  refine hHoused.of_sheltered (h.sheltered hHoused.sheltered) ?_ ?_ h.lastTransferId
  · rw [h.batches]
    exact hHoused.uniform
  · rw [h.custody_eq]

theorem Housed.queue (h : s.Housed) (hRoom : s.lastTransferId.toNat + 1 ≠ UInt64.size)
    (hId : tx.id = s.lastTransferId + 1) : (s.queue tx).Housed := by
  have hNew : s.transfers.find? tx.id = none := hId ▸ h.sheltered.find?_next hRoom
  refine ⟨h.pool.insert tx, h.shelf, h.behind, h.uniform, ?_⟩
  refine ((queue_perm hNew).map _).trans ?_
  show ((tx.id.toNat :: s.custody.map _)).Perm (List.range' 1 tx.id.toNat)
  rw [hId, toNat_add_one hRoom, List.range'_1_concat, Nat.add_comm 1]
  exact (h.ids.cons _).trans (List.perm_append_singleton _ _).symm

theorem Housed.takeBatch (h : s.Housed) (hNonce : s.lastBatchNonce.toNat < batch.nonce.toNat)
    (hNodup : (batch.elements.map Transfer.id).Nodup)
    (hWaiting : ∀ tx ∈ batch.elements, tx ∈ s.transfers.values)
    (hUniform : ∀ tx ∈ batch.elements, tx.contract = batch.contract) :
    (s.takeBatch batch).Housed := by
  refine h.of_sheltered (h.sheltered.takeBatch hNonce hNodup hWaiting) (fun other hMem => ?_)
    (takeBatch_perm h.sheltered hNonce hNodup hWaiting) ?_
  · rw [takeBatch_eq] at hMem
    rcases Table.mem_values_of_insert hMem with rfl | hOld
    · exact hUniform
    · exact h.uniform other hOld
  · rw [takeBatch_eq]

theorem Housed.executeBatch (h : s.Housed) (contract : EthAddress) (nonce : Nonce) :
    (s.executeBatch contract nonce).Housed := by
  obtain ⟨hSheltered, hPerm⟩ := executeBatch_sheltered h.sheltered contract nonce
  refine h.of_sheltered hSheltered (fun batch hMem => ?_) hPerm ?_
  · rcases mem_executeBatch h.shelf hMem with ⟨hOld, -⟩ | ⟨old, hOld, -, -, rfl⟩
    · exact h.uniform batch hOld
    · exact h.uniform old hOld
  · obtain ⟨_, _, _, hFrame⟩ := s.executeBatch_frame contract nonce
    rw [hFrame]

theorem Housed.find?_of_mem (h : s.Housed) (hMem : tx ∈ s.transfers.values) :
    s.transfers.find? tx.id = some tx :=
  h.pool.mem_values_iff.mp hMem

theorem Housed.not_waiting (h : s.Housed) (hStored : s.batches.find? batch.key = some batch) :
    (batch.elements.map Transfer.id).Nodup ∧
      ∀ tx ∈ batch.elements, s.transfers.find? tx.id = none :=
  h.sheltered.not_waiting hStored

/-- A transfer in a stored batch is in no other one. -/
theorem Housed.only_batch {other : Batch} {tx' : Transfer} (h : s.Housed)
    (hStored : s.batches.find? batch.key = some batch) (hTx : tx ∈ batch.elements)
    (hOther : other ∈ s.batches.values) (hTx' : tx' ∈ other.elements) (hId : tx'.id = tx.id) :
    other = batch := by
  have hFound := h.shelf.mem_values_iff.mp hOther
  by_cases hKey : other.key = batch.key
  · rw [hKey, hStored] at hFound
    exact (Option.some.inj hFound).symm
  · have hKept : (s.batches.erase batch.key).find? other.key = some other := by
      rw [Table.find?_erase, if_neg hKey, hFound]
    have hLeft := Table.mem_values_of_find? hKept
    have hBatched : (s.batched.map Transfer.id).Nodup :=
      h.sheltered.apart.sublist ((List.sublist_append_right _ _).map _)
    rw [((batched_perm hStored).map _).nodup_iff, List.map_append, List.nodup_append] at hBatched
    have hTx'Left : tx' ∈ (s.batches.erase batch.key).values.flatMap Batch.elements :=
      List.mem_flatMap.mpr ⟨other, hLeft, hTx'⟩
    exact absurd hId.symm
      (hBatched.2.2 _ (List.mem_map_of_mem hTx) _ (List.mem_map_of_mem hTx'Left))

end Store

end TokenBridge

import TokenBridge.Bridge.Genesis
import TokenBridge.Proofs.Claims.Agreement
import TokenBridge.Proofs.Genesis.Validation
import TokenBridge.Proofs.Withdrawals.Custody

/-!
# Stopping and starting

The records of a bridge, loaded into an empty store, make up the same store.

* `Store.Orderly`: the invariant. All that a valid document must be, said of the store itself;
* `Store.load_eq`: loading builds each table on its own;
* `Store.sound_genesis`, `Store.load_genesis`: the document of an orderly store is valid, and
  loading it restores the store;
* `orderly_run`: stores along a run from an empty one are orderly.
-/

namespace TokenBridge

attribute [ext] Store

theorem genuine_start {claim : Claim} (h : claim.validate = .ok ()) :
    (Attestation.start claim).Genuine :=
  ⟨h, rfl⟩

theorem Attestation.Grows.genuine {a a' : Attestation} (h : a.Grows a') (hGenuine : a.Genuine) :
    a'.Genuine := by
  rw [Genuine, h.claim_eq, h.details_eq]
  exact hGenuine

namespace Store

variable {s : Store} {params : Params}

/-- The records of the store make up a valid document. -/
structure Orderly (s : Store) : Prop where
  housed : s.Housed
  canonical : s.Canonical
  referred : s.Referred
  owned : s.Owned
  filed : s.Filed
  genuine : ∀ a ∈ s.attestations.values, a.Genuine
  moved : ∀ kind nonce, s.claimCursors.find? kind = some nonce → nonce ≠ .zero
  valid : ∀ tx ∈ s.custody, tx.validate = .ok ()

theorem orderly_empty : empty.Orderly where
  housed := housed_empty
  canonical := canonical_empty
  referred := referred_empty
  owned := owned_empty
  filed := Table.keyedBy_empty _
  genuine _ h := absurd h List.not_mem_nil
  moved _ _ h := by cases h
  valid _ h := absurd h List.not_mem_nil

/-! ## Listing -/

theorem Orderly.mem_valsetConfirms (h : s.Orderly) {c : ValsetConfirm} :
    c ∈ (s.genesis params).valsetConfirms ↔ c ∈ s.valsetConfirms.values :=
  h.referred.valsets.mem_flatMap h.canonical.keyed (fun v key _ => key.1 == v.nonce)
    fun _ _ => beq_iff_eq

theorem Orderly.mem_batchConfirms (h : s.Orderly) {c : BatchConfirm} :
    c ∈ (s.genesis params).batchConfirms ↔ c ∈ s.batchConfirms.values := by
  refine h.referred.batches.mem_flatMap h.housed.shelf
    (fun batch key _ => key.1 == batch.contract && key.2.1 == batch.nonce) fun batch c => ?_
  rw [Bool.and_eq_true, beq_iff_eq, beq_iff_eq]
  rw [BatchConfirm.batchKey, Batch.key, Prod.mk.injEq]
  rfl

theorem mem_movedCursors {c : ClaimCursor} :
    c ∈ s.movedCursors ↔ c.nonce = s.claimCursor c.kind ∧ c.nonce ≠ .zero := by
  rw [movedCursors, List.mem_filter, List.mem_map, bne_iff_ne]
  refine and_congr_left fun _ => ⟨?_, fun h => ⟨c.kind, ?_, by rw [← h]⟩⟩
  · rintro ⟨kind, -, rfl⟩
    rfl
  · cases c.kind <;> decide

/-! ## Loading -/

theorem foldl_putValset (l : List Valset) (s : Store) :
    l.foldl putValset s =
      { s with valsets := l.foldl (fun t v => t.insert v.nonce v) s.valsets } :=
  List.foldl_hom (fun t => { s with valsets := t }) fun _ _ => rfl

theorem foldl_putValsetConfirm (l : List ValsetConfirm) (s : Store) :
    l.foldl putValsetConfirm s =
      { s with valsetConfirms := l.foldl (fun t c => t.insert c.key c) s.valsetConfirms } :=
  List.foldl_hom (fun t => { s with valsetConfirms := t }) fun _ _ => rfl

theorem foldl_putBatch (l : List Batch) (s : Store) :
    l.foldl putBatch s =
      { s with batches := l.foldl (fun t batch => t.insert batch.key batch) s.batches } :=
  List.foldl_hom (fun t => { s with batches := t }) fun _ _ => rfl

theorem foldl_putBatchConfirm (l : List BatchConfirm) (s : Store) :
    l.foldl putBatchConfirm s =
      { s with batchConfirms := l.foldl (fun t c => t.insert c.key c) s.batchConfirms } :=
  List.foldl_hom (fun t => { s with batchConfirms := t }) fun _ _ => rfl

theorem foldl_putAttestation (l : List Attestation) (s : Store) :
    l.foldl putAttestation s =
      { s with attestations := l.foldl (fun t a => t.insert a.key a) s.attestations } :=
  List.foldl_hom (fun t => { s with attestations := t }) fun _ _ => rfl

theorem foldl_putKey (l : List KeyRegistration) (s : Store) :
    l.foldl (fun s r => s.putKey r.validator r.address) s =
      { s with keys := l.foldl (fun t r => t.insert r.validator r.address) s.keys } :=
  List.foldl_hom (fun t => { s with keys := t }) fun _ _ => rfl

theorem foldl_setClaimCursor (l : List ClaimCursor) (s : Store) :
    l.foldl (fun s c => s.setClaimCursor c.kind c.nonce) s =
      { s with claimCursors := l.foldl (fun t c => t.insert c.kind c.nonce) s.claimCursors } :=
  List.foldl_hom (fun t => { s with claimCursors := t }) fun _ _ => rfl

theorem foldl_setConfirmCursor (l : List ConfirmCursor) (s : Store) :
    l.foldl (fun s c => s.setConfirmCursor c.validator c.stream c.nonce) s =
      { s with
        confirmCursors :=
          l.foldl (fun t c => t.insert (c.validator, c.stream) c.nonce) s.confirmCursors } :=
  List.foldl_hom (fun t => { s with confirmCursors := t }) fun _ _ => rfl

/-- Loading builds each table on its own. -/
theorem load_eq (s : Store) (g : Genesis) :
    s.load g =
      { attestations := g.attestations.foldl (fun t a => t.insert a.key a) s.attestations
        claimCursors := g.claimCursors.foldl (fun t c => t.insert c.kind c.nonce) s.claimCursors
        confirmCursors :=
          g.confirmCursors.foldl (fun t c => t.insert (c.validator, c.stream) c.nonce)
            s.confirmCursors
        valsets := g.valsets.foldl (fun t v => t.insert v.nonce v) s.valsets
        observedValset := g.observedValset <|> s.observedValset
        valsetConfirms := g.valsetConfirms.foldl (fun t c => t.insert c.key c) s.valsetConfirms
        batches := g.batches.foldl (fun t batch => t.insert batch.key batch) s.batches
        lastBatchNonce := g.lastBatchNonce
        batchConfirms := g.batchConfirms.foldl (fun t c => t.insert c.key c) s.batchConfirms
        transfers := g.transfers.foldl (fun t tx => t.insert tx.id tx) s.transfers
        lastTransferId := g.lastTransferId
        keys := g.keys.foldl (fun t r => t.insert r.validator r.address) s.keys } := by
  rw [load]
  simp only [foldl_putValset, foldl_putValsetConfirm, foldl_putBatch, foldl_putBatchConfirm,
    foldl_putAttestation, foldl_putTransfer, foldl_putKey, foldl_setClaimCursor,
    foldl_setConfirmCursor]

/-- A nonce of a claim cursor is listed, as it is not zero. -/
theorem Orderly.foldl_movedCursors (h : s.Orderly) :
    s.movedCursors.foldl (fun t c => t.insert c.kind c.nonce) .empty = s.claimCursors := by
  have hFound : ∀ kind nonce, s.claimCursors.find? kind = some nonce ↔
      nonce = s.claimCursor kind ∧ nonce ≠ .zero := by
    intro kind nonce
    rw [claimCursor]
    cases hStored : s.claimCursors.find? kind with
    | none =>
      rw [Option.getD_none]
      constructor
      · intro hNone
        cases hNone
      · exact fun hZero => absurd hZero.1 hZero.2
    | some cursor =>
      rw [Option.getD_some, Option.some.injEq, eq_comm]
      exact ⟨fun hEq => ⟨hEq, hEq ▸ h.moved kind cursor hStored⟩, And.left⟩
  refine Table.foldl_insert_eq (fun c hMem => ?_) fun kind nonce hStored => ?_
  · exact (hFound _ _).mpr (mem_movedCursors.mp hMem)
  · have hMem : ⟨kind, nonce⟩ ∈ s.movedCursors := mem_movedCursors.mpr ((hFound _ _).mp hStored)
    exact List.mem_map_of_mem (f := ClaimCursor.kind) hMem

/-- **The document of an orderly store, loaded into an empty one, restores it.** -/
theorem Orderly.load_genesis (h : s.Orderly) (params : Params) :
    empty.load (s.genesis params) = s := by
  have hConfirmCursors : (s.genesis params).confirmCursors.foldl
      (fun t c => t.insert (c.validator, c.stream) c.nonce) .empty = s.confirmCursors := by
    rw [genesis, List.foldl_map]
    exact s.confirmCursors.foldl_insert_entries
  have hKeys : (s.genesis params).keys.foldl (fun t r => t.insert r.validator r.address) .empty =
      s.keys := by
    rw [genesis, List.foldl_map]
    exact s.keys.foldl_insert_entries
  have hObserved : ((s.genesis params).observedValset <|> none) = s.observedValset := by
    rw [genesis]
    cases s.observedValset with
    | none => rfl
    | some nonce => rfl
  rw [load_eq]
  exact Store.ext (Table.KeyedBy.foldl_insert_eq h.filed fun _ => Iff.rfl) h.foldl_movedCursors
    hConfirmCursors (h.canonical.keyed.foldl_insert_eq fun _ => Iff.rfl) hObserved
    (h.referred.valsets.keyed.foldl_insert_eq fun _ => h.mem_valsetConfirms)
    (h.housed.shelf.foldl_insert_eq fun _ => Iff.rfl) rfl
    (h.referred.batches.keyed.foldl_insert_eq fun _ => h.mem_batchConfirms)
    (h.housed.pool.foldl_insert_eq fun _ => Iff.rfl) rfl hKeys

/-! ## Validity -/

theorem Owned.nodup_keys (h : s.Owned) : s.keys.values.Nodup := by
  rw [Table.values, List.nodup_iff_pairwise_ne, List.pairwise_map]
  refine s.keys.sorted.imp_of_mem fun {entry other} hEntry hOther hBefore hKey => ?_
  have hFound : s.key? entry.1 = some other.2 := hKey ▸ Table.mem_entries_iff.mp hEntry
  exact before_ne hBefore (h.apart _ _ _ hFound (Table.mem_entries_iff.mp hOther))

/-- **The document of an orderly store is valid.** -/
theorem Orderly.sound_genesis (h : s.Orderly) (hParams : params.validate = .ok ()) :
    (s.genesis params).Sound where
  params := hParams
  valsets := h.canonical.valid
  valsetNonces := h.canonical.keyed.nodup
  valsetConfirms c hMem := by
    obtain ⟨v, hFound⟩ := h.referred.valsets.found c (h.mem_valsetConfirms.mp hMem)
    rw [← h.canonical.keyed _ _ hFound]
    exact List.mem_map_of_mem (Table.mem_values_of_find? hFound)
  batches := h.housed.behind
  batchKeys := h.housed.shelf.nodup
  batchConfirms c hMem := by
    obtain ⟨batch, hFound⟩ := h.referred.batches.found c (h.mem_batchConfirms.mp hMem)
    rw [← h.housed.shelf _ _ hFound]
    exact List.mem_map_of_mem (Table.mem_values_of_find? hFound)
  transfers tx hMem :=
    have hKept : tx ∈ s.custody := List.mem_append_left _ hMem
    ⟨h.valid tx hKept, h.housed.id_mem_range hKept⟩
  transferIds := h.housed.pool.nodup
  attestations := h.genuine
  keys r hMem := by
    obtain ⟨entry, hEntry, rfl⟩ := List.mem_map.mp hMem
    exact h.owned.nonZero _ _ (Table.mem_entries_iff.mp hEntry)
  keyAddresses := by
    rw [genesis, List.map_map]
    exact h.owned.nodup_keys

end Store

namespace Bridge

variable {b b' : Bridge} {event : Event} {claim : Claim}

/-! ## Events -/

theorem genuine_tally (hFiled : b.store.Filed)
    (hGenuine : ∀ a ∈ b.store.attestations.values, a.Genuine) (hValid : claim.validate = .ok ()) :
    (b.tally claim).Genuine := by
  rw [tally_eq hFiled]
  cases hFound : b.store.attestations.find? (Attestation.start claim).key with
  | none => exact genuine_start hValid
  | some a => exact hGenuine a (Table.mem_values_of_find? hFound)

theorem genuine_step (hFiled : b.store.Filed)
    (hGenuine : ∀ a ∈ b.store.attestations.values, a.Genuine) (h : Step b event b') :
    ∀ a ∈ b'.store.attestations.values, a.Genuine := by
  intro a hMem
  cases tallied_of_step hFiled h with
  | idle hTallies => exact hGenuine a (hTallies ▸ hMem)
  | amended _ hValid _ _ hAmended hTallies =>
    rw [hTallies] at hMem
    rcases Table.mem_values_of_insert hMem with rfl | hOld
    · exact hAmended.grows.genuine (genuine_tally hFiled hGenuine hValid)
    · exact hGenuine a hOld
  | @settled _ _ _ _ stored _ hValid _ _ hAmended _ _ hTallies =>
    rw [hTallies] at hMem
    rcases Table.mem_values_of_insert hMem with rfl | hOld
    · have hStored : stored.Genuine :=
        hAmended.grows.genuine (genuine_tally hFiled hGenuine hValid)
      exact hStored
    · exact hGenuine a hOld

theorem moved_step (hFiled : b.store.Filed)
    (hMoved : ∀ kind nonce, b.store.claimCursors.find? kind = some nonce → nonce ≠ .zero)
    (h : Step b event b') :
    ∀ kind nonce, b'.store.claimCursors.find? kind = some nonce → nonce ≠ .zero := by
  intro kind nonce hFound
  cases tallied_of_step hFiled h with
  | idle _ hCursors => exact hMoved kind nonce (hCursors ▸ hFound)
  | amended _ _ _ _ _ _ hCursors => exact hMoved kind nonce (hCursors ▸ hFound)
  | @settled _ claim _ _ _ _ _ _ hNext _ _ _ _ hCursors =>
    rw [hCursors, Table.find?_insert] at hFound
    by_cases hKind : kind = claim.kind
    · rw [if_pos hKind] at hFound
      rintro rfl
      rw [Option.some.inj hFound] at hNext
      exact absurd hNext.symm (Nat.succ_ne_zero _)
    · rw [if_neg hKind] at hFound
      exact hMoved kind nonce hFound

theorem valid_of_queuedBy {tx : Transfer} (h : tx ∈ b.queuedBy event) :
    tx.validate = .ok () := by
  obtain ⟨sender, dest, amount, fee, rfl⟩ := exists_send_of_queuedBy h
  rw [queuedBy] at h
  cases hReply : send sender dest amount fee b with
  | ok id b' =>
    rw [hReply] at h
    cases h
    cases handled_send hReply with
    | queued _ _ hValid => exact hValid
  | error refusal b' =>
    rw [hReply] at h
    cases h

theorem orderly_after (h : b.store.Orderly) (event : Event) : (b.after event).store.Orderly := by
  have hStep := step_after b event
  refine ⟨housed_step h.housed hStep, canonical_step h.canonical hStep,
    referred_step h.referred hStep, owned_step h.owned hStep, filed_step h.filed hStep,
    genuine_step h.filed h.genuine hStep, moved_step h.filed h.moved hStep, fun tx hMem => ?_⟩
  have hPerm := custody_perm_after h.housed.sheltered event
  rcases List.mem_append.mp (hPerm.subset hMem) with hQueued | hKept
  · exact valid_of_queuedBy (Option.mem_toList.mp hQueued)
  · exact h.valid tx hKept

theorem orderly_run (h : b.store.Orderly) (events : List Event) :
    (b.run events).store.Orderly :=
  run_induction (P := fun b => b.store.Orderly) (fun _ event h => orderly_after h event) h events

/-! ## Restarting -/

theorem initGenesis_apply {g : Genesis} (h : g.validate = .ok ()) (b : Bridge) :
    initGenesis g b = .ok () { b with store := b.store.load g, params := g.params } := by
  rw [initGenesis, h]
  rfl

/-- **Restarting.** After a run from an empty store under valid settings the document of the bridge
is valid. It is loaded into any bridge whose store is empty, and the restored bridge has the same
store, the same settings and the same document. -/
theorem restart_run (origin fresh : Bridge) (events : List Event)
    (hParams : origin.params.validate = .ok ()) :
    let b := origin.blank.run events
    b.exportGenesis.validate = .ok () ∧
    ∃ restored, initGenesis b.exportGenesis fresh.blank = .ok () restored ∧
      restored.store = b.store ∧ restored.params = b.params ∧
      restored.exportGenesis = b.exportGenesis := by
  intro b
  have hOrderly : b.store.Orderly := orderly_run Store.orderly_empty events
  have hKept : b.params = origin.params := params_run origin.blank events
  have hValid : b.exportGenesis.validate = .ok () :=
    Genesis.validate_eq_ok.mpr (hOrderly.sound_genesis (hKept ▸ hParams))
  have hLoad : fresh.blank.store.load b.exportGenesis = b.store := hOrderly.load_genesis b.params
  refine ⟨hValid, _, initGenesis_apply hValid fresh.blank, hLoad, rfl, ?_⟩
  rw [exportGenesis, hLoad]
  rfl

/-- The only validator claims a deposit. -/
def firstDeposit : List Event :=
  [.staking (.bond ⟨.ofNat 20 1⟩ 1 ⟨.ofNat 20 2⟩),
    .message (.claim ⟨.ofNat 20 2⟩ (.deposit ⟨1⟩ ⟨⟨600, by decide⟩, "USD", ⟨.ofNat 20 7⟩⟩
      ⟨.ofNat 20 3⟩ ⟨.ofNat 20 4⟩))]

/-- The bridge that has settled the deposit restarts. -/
theorem restart_of_firstDeposit :
    let b := (default : Bridge).blank.run firstDeposit
    b.store.claimCursors.entries = [(.deposit, ⟨1⟩)] ∧ b.exportGenesis.validate = .ok () ∧
    ∃ restored, initGenesis b.exportGenesis (default : Bridge).blank = .ok () restored ∧
      restored.store = b.store ∧ restored.params = b.params ∧
      restored.exportGenesis = b.exportGenesis := by
  intro b
  have hCursors : ((default : Bridge).blank.run firstDeposit).store.claimCursors.entries =
      [(.deposit, ⟨1⟩)] := by
    decide +kernel
  exact ⟨hCursors, restart_run default default firstDeposit rfl⟩

end Bridge

end TokenBridge

import TokenBridge.Proofs.Genesis.Custody
import TokenBridge.Proofs.Table.Building

/-!
# Loading a document and writing it again

What is written after a document was loaded into an empty store has no record that the document has
not. It has all of them just when no two of one list go under the same key, and no cursor of claims
stands at zero. The checks of a document see to this for signer sets, batches and waiting transfers
only.

* `Genesis.Within`, `Genesis.Reorders`: documents with no more records, and with the same ones;
* `Genesis.Apart`: what the checks leave out;
* `reload_records`: both for a document that is loaded and written again;
* `doubled_overwrites`: a document that loses a record on the way.
-/

namespace TokenBridge

open scoped List

/-! ## Documents -/

theorem Store.nodup_movedCursors (s : Store) : (s.movedCursors.map ClaimCursor.kind).Nodup := by
  have hSub : (s.movedCursors.map ClaimCursor.kind).Sublist ClaimKind.all :=
    List.filter_sublist.map ClaimCursor.kind
  exact hSub.nodup (by decide)

def ConfirmCursor.key (c : ConfirmCursor) : ValidatorAddress × ConfirmStream :=
  (c.validator, c.stream)

namespace Genesis

variable {g : Genesis} {params : Params}

/-- A document has no record that another one has not, and the same settings and last numbers. -/
structure Within (e g : Genesis) : Prop where
  params : e.params = g.params
  valsets : e.valsets <+~ g.valsets
  observedValset : e.observedValset = g.observedValset
  valsetConfirms : e.valsetConfirms <+~ g.valsetConfirms
  batches : e.batches <+~ g.batches
  batchConfirms : e.batchConfirms <+~ g.batchConfirms
  attestations : e.attestations <+~ g.attestations
  transfers : e.transfers <+~ g.transfers
  keys : e.keys <+~ g.keys
  claimCursors : e.claimCursors <+~ g.claimCursors
  confirmCursors : e.confirmCursors <+~ g.confirmCursors
  lastTransferId : e.lastTransferId = g.lastTransferId
  lastBatchNonce : e.lastBatchNonce = g.lastBatchNonce

/-- A document has the records of another one, each as often, in any order. -/
structure Reorders (e g : Genesis) : Prop where
  params : e.params = g.params
  valsets : e.valsets ~ g.valsets
  observedValset : e.observedValset = g.observedValset
  valsetConfirms : e.valsetConfirms ~ g.valsetConfirms
  batches : e.batches ~ g.batches
  batchConfirms : e.batchConfirms ~ g.batchConfirms
  attestations : e.attestations ~ g.attestations
  transfers : e.transfers ~ g.transfers
  keys : e.keys ~ g.keys
  claimCursors : e.claimCursors ~ g.claimCursors
  confirmCursors : e.confirmCursors ~ g.confirmCursors
  lastTransferId : e.lastTransferId = g.lastTransferId
  lastBatchNonce : e.lastBatchNonce = g.lastBatchNonce

/-- In the lists that the checks leave out, no key is given twice, and cursors of claims have
moved. -/
structure Apart (g : Genesis) : Prop where
  valsetConfirms : (g.valsetConfirms.map ValsetConfirm.key).Nodup
  batchConfirms : (g.batchConfirms.map BatchConfirm.key).Nodup
  attestations : (g.attestations.map Attestation.key).Nodup
  keys : (g.keys.map KeyRegistration.validator).Nodup
  claimCursors : (g.claimCursors.map ClaimCursor.kind).Nodup
  moved : ∀ c ∈ g.claimCursors, c.nonce ≠ .zero
  confirmCursors : (g.confirmCursors.map ConfirmCursor.key).Nodup

/-! ## Loaded records -/

theorem Sound.valsets_load (h : g.Sound) : (Store.empty.load g).valsets.values ~ g.valsets := by
  rw [Store.load_eq]
  exact Table.perm_values_build h.valsetNonces

/-- Each confirmation of a loaded signer set is written once. -/
theorem Sound.valsetConfirms_load (h : g.Sound) :
    ((Store.empty.load g).genesis params).valsetConfirms ~
      (Store.empty.load g).valsetConfirms.values := by
  have hValsets : (Store.empty.load g).valsets.KeyedBy Valset.nonce := by
    rw [Store.load_eq]
    exact (Table.keyedBy_empty _).foldl_insert g.valsets
  have hRefers : (Store.empty.load g).valsetConfirms.Refers ValsetConfirm.key ValsetConfirm.nonce
      (Store.empty.load g).valsets := by
    refine ⟨?_, fun c hMem => ?_⟩
    · rw [Store.load_eq]
      exact (Table.keyedBy_empty _).foldl_insert g.valsetConfirms
    · rw [Store.load_eq] at hMem
      have hListed := h.valsetConfirms c (Table.subperm_values_build.subset hMem)
      obtain ⟨v, hValset, hNonce⟩ := List.mem_map.mp hListed
      exact ⟨v, hNonce ▸ hValsets.mem_values_iff.mp (h.valsets_load.symm.subset hValset)⟩
  exact hRefers.perm_flatMap hValsets (fun v key _ => key.1 == v.nonce) fun _ _ => beq_iff_eq

/-- Each confirmation of a loaded batch is written once. -/
theorem Sound.batchConfirms_load (h : g.Sound) :
    ((Store.empty.load g).genesis params).batchConfirms ~
      (Store.empty.load g).batchConfirms.values := by
  have hBatches : (Store.empty.load g).batches.KeyedBy Batch.key := by
    rw [Store.load_eq]
    exact (Table.keyedBy_empty _).foldl_insert g.batches
  have hRefers : (Store.empty.load g).batchConfirms.Refers BatchConfirm.key BatchConfirm.batchKey
      (Store.empty.load g).batches := by
    refine ⟨?_, fun c hMem => ?_⟩
    · rw [Store.load_eq]
      exact (Table.keyedBy_empty _).foldl_insert g.batchConfirms
    · rw [Store.load_eq] at hMem
      have hListed := h.batchConfirms c (Table.subperm_values_build.subset hMem)
      obtain ⟨batch, hBatch, hKey⟩ := List.mem_map.mp hListed
      exact ⟨batch, hKey ▸ hBatches.mem_values_iff.mp (h.batches_load.symm.subset hBatch)⟩
  refine hRefers.perm_flatMap hBatches
    (fun batch key _ => key.1 == batch.contract && key.2.1 == batch.nonce) fun batch c => ?_
  rw [Bool.and_eq_true, beq_iff_eq, beq_iff_eq, BatchConfirm.batchKey, Batch.key, Prod.mk.injEq]
  rfl

theorem mem_movedCursors_load {c : ClaimCursor} (h : c ∈ (Store.empty.load g).movedCursors) :
    (c.kind, c.nonce) ∈ (Store.empty.load g).claimCursors.entries := by
  obtain ⟨hNonce, hMoved⟩ := Store.mem_movedCursors.mp h
  rw [Table.mem_entries_iff]
  rw [Store.claimCursor] at hNonce
  cases hFound : (Store.empty.load g).claimCursors.find? c.kind with
  | none =>
    rw [hFound, Option.getD_none] at hNonce
    exact absurd hNonce hMoved
  | some nonce =>
    rw [hFound, Option.getD_some] at hNonce
    rw [hNonce]

theorem claimCursors_load (g : Genesis) :
    (Store.empty.load g).movedCursors <+~ g.claimCursors ∧
      ((Store.empty.load g).movedCursors ~ g.claimCursors ↔
        (g.claimCursors.map ClaimCursor.kind).Nodup ∧ ∀ c ∈ g.claimCursors, c.nonce ≠ .zero) := by
  have hKinds := (Store.empty.load g).nodup_movedCursors
  have hListed : (Store.empty.load g).movedCursors ⊆ g.claimCursors := by
    intro c hMem
    have hEntry := mem_movedCursors_load hMem
    rw [Store.load_eq] at hEntry
    obtain ⟨c', hMem', hPair⟩ := List.mem_map.mp ((Table.subperm_entries_build _ _ _).subset hEntry)
    cases c
    cases c'
    cases hPair
    exact hMem'
  refine ⟨List.subperm_of_subset hKinds.of_map hListed, fun hPerm => ?_, ?_⟩
  · refine ⟨(hPerm.map ClaimCursor.kind).nodup_iff.mp hKinds, fun c hMem => ?_⟩
    exact (Store.mem_movedCursors.mp (hPerm.symm.subset hMem)).2
  · rintro ⟨hNodup, hMoved⟩
    refine (List.perm_ext_iff_of_nodup hKinds.of_map hNodup.of_map).mpr fun c =>
      ⟨fun hMem => hListed hMem, fun hMem => ?_⟩
    have hEntry : (c.kind, c.nonce) ∈ (Store.empty.load g).claimCursors.entries := by
      rw [Store.load_eq]
      exact ((Table.perm_entries_build_iff _ _ _).mpr hNodup).symm.subset (List.mem_map_of_mem hMem)
    refine Store.mem_movedCursors.mpr ⟨?_, hMoved c hMem⟩
    rw [Store.claimCursor, Table.mem_entries_iff.mp hEntry, Option.getD_some]

/-! ## Documents written again -/

/-- A document that is loaded and written again has gained nothing. -/
theorem Sound.within_load (h : g.Sound) : ((Store.empty.load g).genesis g.params).Within g where
  params := rfl
  valsets := h.valsets_load.subperm
  observedValset := by
    show (Store.empty.load g).observedValset = g.observedValset
    rw [Store.load_eq]
    cases g.observedValset with
    | _ => rfl
  valsetConfirms := by
    refine h.valsetConfirms_load.subperm.trans ?_
    rw [Store.load_eq]
    exact Table.subperm_values_build
  batches := h.batches_load.subperm
  batchConfirms := by
    refine h.batchConfirms_load.subperm.trans ?_
    rw [Store.load_eq]
    exact Table.subperm_values_build
  attestations := by
    show (Store.empty.load g).attestations.values <+~ _
    rw [Store.load_eq]
    exact Table.subperm_values_build
  transfers := h.transfers_load.subperm
  keys := by
    show (Store.empty.load g).keys.entries.map _ <+~ _
    rw [Store.load_eq]
    exact Table.subperm_records_build fun _ => rfl
  claimCursors := (claimCursors_load g).1
  confirmCursors := by
    show (Store.empty.load g).confirmCursors.entries.map _ <+~ _
    rw [Store.load_eq]
    exact Table.subperm_records_build fun _ => rfl
  lastTransferId := rfl
  lastBatchNonce := rfl

/-- It has lost nothing just when its records are apart. -/
theorem Sound.reorders_load_iff (h : g.Sound) :
    ((Store.empty.load g).genesis g.params).Reorders g ↔ g.Apart := by
  have hWithin := h.within_load
  have hValsetConfirms : ((Store.empty.load g).genesis g.params).valsetConfirms ~
      g.valsetConfirms ↔ (g.valsetConfirms.map ValsetConfirm.key).Nodup := by
    rw [h.valsetConfirms_load.congr_left, Store.load_eq]
    exact Table.perm_values_build_iff
  have hBatchConfirms : ((Store.empty.load g).genesis g.params).batchConfirms ~
      g.batchConfirms ↔ (g.batchConfirms.map BatchConfirm.key).Nodup := by
    rw [h.batchConfirms_load.congr_left, Store.load_eq]
    exact Table.perm_values_build_iff
  have hAttestations : ((Store.empty.load g).genesis g.params).attestations ~
      g.attestations ↔ (g.attestations.map Attestation.key).Nodup := by
    show (Store.empty.load g).attestations.values ~ _ ↔ _
    rw [Store.load_eq]
    exact Table.perm_values_build_iff
  have hKeys : ((Store.empty.load g).genesis g.params).keys ~ g.keys ↔
      (g.keys.map KeyRegistration.validator).Nodup := by
    show (Store.empty.load g).keys.entries.map _ ~ _ ↔ _
    rw [Store.load_eq]
    exact Table.perm_records_build_iff (fun _ => rfl) fun _ => rfl
  have hConfirmCursors : ((Store.empty.load g).genesis g.params).confirmCursors ~
      g.confirmCursors ↔ (g.confirmCursors.map ConfirmCursor.key).Nodup := by
    show (Store.empty.load g).confirmCursors.entries.map _ ~ _ ↔ _
    rw [Store.load_eq]
    exact Table.perm_records_build_iff (fun _ => rfl) fun _ => rfl
  have hClaimCursors := (claimCursors_load g).2
  constructor
  · intro hSame
    obtain ⟨hKinds, hMoved⟩ := hClaimCursors.mp hSame.claimCursors
    exact ⟨hValsetConfirms.mp hSame.valsetConfirms, hBatchConfirms.mp hSame.batchConfirms,
      hAttestations.mp hSame.attestations, hKeys.mp hSame.keys, hKinds, hMoved,
      hConfirmCursors.mp hSame.confirmCursors⟩
  · intro hApart
    exact
      { params := rfl
        valsets := h.valsets_load
        observedValset := hWithin.observedValset
        valsetConfirms := hValsetConfirms.mpr hApart.valsetConfirms
        batches := h.batches_load
        batchConfirms := hBatchConfirms.mpr hApart.batchConfirms
        attestations := hAttestations.mpr hApart.attestations
        transfers := h.transfers_load
        keys := hKeys.mpr hApart.keys
        claimCursors := hClaimCursors.mpr ⟨hApart.claimCursors, hApart.moved⟩
        confirmCursors := hConfirmCursors.mpr hApart.confirmCursors
        lastTransferId := rfl
        lastBatchNonce := rfl }

end Genesis

namespace Bridge

/-- **Loading a document and writing it again.** Let a document be accepted by a bridge whose store
is empty. The document that is written next has no record that the first one has not, keeps all
signer sets, batches and waiting transfers, and is the same up to the order of records just when the
records of the first one are apart. -/
theorem reload_records (host loaded : Bridge) (g : Genesis)
    (hLoad : initGenesis g host.blank = .ok () loaded) :
    loaded.exportGenesis.Within g ∧ loaded.exportGenesis.valsets ~ g.valsets ∧
      loaded.exportGenesis.batches ~ g.batches ∧ loaded.exportGenesis.transfers ~ g.transfers ∧
      (loaded.exportGenesis.Reorders g ↔ g.Apart) := by
  obtain ⟨hValid, rfl⟩ := initGenesis_eq_ok hLoad
  have hSound : g.Sound := Genesis.validate_eq_ok.mp hValid
  exact ⟨hSound.within_load, hSound.valsets_load, hSound.batches_load, hSound.transfers_load,
    hSound.reorders_load_iff⟩

/-- A document with the keys of two registrations, and with one cursor of claims. -/
def twoKeys (first second : Nat) : Genesis :=
  { Genesis.blank .default with
    keys := [⟨⟨.ofNat 20 first⟩, ⟨.ofNat 20 7⟩⟩, ⟨⟨.ofNat 20 second⟩, ⟨.ofNat 20 8⟩⟩]
    claimCursors := [⟨.deposit, ⟨4⟩⟩] }

/-- The keys of two validators are both kept. -/
theorem reload_of_twoKeys :
    ∃ loaded, initGenesis (twoKeys 2 1) (default : Bridge).blank = .ok () loaded ∧
      loaded.exportGenesis.Reorders (twoKeys 2 1) ∧ loaded.exportGenesis ≠ twoKeys 2 1 := by
  have hValid : (twoKeys 2 1).validate = .ok () := by decide +kernel
  have hLoad := initGenesis_apply hValid (default : Bridge).blank
  obtain ⟨-, -, -, -, hSame⟩ := reload_records default _ (twoKeys 2 1) hLoad
  refine ⟨_, hLoad, hSame.mpr ?_, by decide +kernel⟩
  exact ⟨by decide, by decide, by decide, by decide, by decide, by decide, by decide⟩

/-- **Two keys of one validator.** The checks accept a document that registers two keys for one
validator, and the first of them is lost. -/
theorem doubled_overwrites :
    ∃ loaded, initGenesis (twoKeys 1 1) (default : Bridge).blank = .ok () loaded ∧
      loaded.exportGenesis.keys = [⟨⟨.ofNat 20 1⟩, ⟨.ofNat 20 8⟩⟩] ∧
      ¬loaded.exportGenesis.Reorders (twoKeys 1 1) := by
  have hValid : (twoKeys 1 1).validate = .ok () := by decide +kernel
  have hLoad := initGenesis_apply hValid (default : Bridge).blank
  refine ⟨_, hLoad, by decide +kernel, fun hSame => ?_⟩
  have hLength : (1 : Nat) = 2 := hSame.keys.length_eq
  exact absurd hLength (by decide)

end Bridge

end TokenBridge

import TokenBridge.Proofs.Genesis.Restart

/-!
# Custody of loaded transfers

The checks of a document compare the ids of waiting transfers, and no others. Where the ids of
transfers in batches are told apart as well and were given out, every transfer that a document lists
is kept from then on, next to those that are sent later. Where they are not, the transfers of a
cancelled batch take the places of waiting ones.

* `Genesis.listed`: the transfers of a document;
* `Genesis.Sound.sheltered_load`: they are kept once by the loaded store;
* `loaded_custody_run`: they are kept along a run;
* `overlapping_loses`: a document that passes the checks and loses transfers.
-/

namespace TokenBridge

open scoped List

namespace Genesis

variable {g : Genesis}

/-- The transfers of a document, waiting or in batches. -/
def listed (g : Genesis) : List Transfer :=
  g.transfers ++ g.batches.flatMap Batch.elements

theorem Sound.transfers_load (h : g.Sound) :
    (Store.empty.load g).transfers.values ~ g.transfers := by
  rw [Store.load_eq]
  exact Table.perm_values_build h.transferIds

theorem Sound.batches_load (h : g.Sound) : (Store.empty.load g).batches.values ~ g.batches := by
  rw [Store.load_eq]
  exact Table.perm_values_build h.batchKeys

/-- Loading keeps all transfers of a document. -/
theorem Sound.custody_load (h : g.Sound) : (Store.empty.load g).custody ~ g.listed :=
  h.transfers_load.append (h.batches_load.flatMap_right _)

theorem Sound.sheltered_load (h : g.Sound) (hApart : (g.listed.map Transfer.id).Nodup)
    (hIssued : ∀ batch ∈ g.batches, ∀ tx ∈ batch.elements, tx.id.toNat ≤ g.lastTransferId.toNat) :
    (Store.empty.load g).Sheltered := by
  refine ⟨?_, ?_, fun batch hMem => ?_, (h.custody_load.map _).nodup_iff.mpr hApart,
    fun tx hMem => ?_⟩
  · rw [Store.load_eq]
    exact (Table.keyedBy_empty _).foldl_insert g.transfers
  · rw [Store.load_eq]
    exact (Table.keyedBy_empty _).foldl_insert g.batches
  · exact h.batches batch (h.batches_load.subset hMem)
  · show tx.id.toNat ≤ g.lastTransferId.toNat
    rcases List.mem_append.mp (h.custody_load.subset hMem) with hWaiting | hBatched
    · exact (h.transfers tx hWaiting).2.2
    · obtain ⟨batch, hBatch, hTx⟩ := List.mem_flatMap.mp hBatched
      exact hIssued batch hBatch tx hTx

end Genesis

namespace Bridge

variable {g : Genesis} {b b' : Bridge}

theorem initGenesis_eq_ok (h : initGenesis g b = .ok () b') :
    g.validate = .ok () ∧ b' = { b with store := b.store.load g, params := g.params } := by
  obtain ⟨_, hCheck, -⟩ := check_bind_eq_ok.mp h
  have hValid : g.validate = .ok () := mapError_eq_ok.mp hCheck
  rw [initGenesis_apply hValid] at h
  cases h
  exact ⟨hValid, rfl⟩

/-- **Custody of loaded transfers.** Let a document be loaded into an empty store whose transfers,
waiting or in batches, have different ids that were given out. Along every later run no id is held
twice by the pool and the batches, and what they hold are the transfers of the document and those
that were sent since. -/
theorem loaded_custody_run (host loaded : Bridge) (g : Genesis)
    (hLoad : initGenesis g host.blank = .ok () loaded)
    (hApart : (g.listed.map Transfer.id).Nodup)
    (hIssued : ∀ batch ∈ g.batches, ∀ tx ∈ batch.elements, tx.id.toNat ≤ g.lastTransferId.toNat)
    (events : List Event) :
    let b := loaded.run events
    (b.store.custody.map Transfer.id).Nodup ∧
    b.store.custody ~ g.listed ++ loaded.sent events ∧
    ∀ tx ∈ g.listed ++ loaded.sent events,
      tx ∈ b.store.transfers.values ∨ ∃ batch ∈ b.store.batches.values, tx ∈ batch.elements := by
  intro b
  obtain ⟨hValid, rfl⟩ := initGenesis_eq_ok hLoad
  have hSound : g.Sound := Genesis.validate_eq_ok.mp hValid
  have hSheltered : (host.blank.store.load g).Sheltered := hSound.sheltered_load hApart hIssued
  have hKept : b.store.custody ~ g.listed ++ _ :=
    (custody_perm_run hSheltered events).trans (hSound.custody_load.append_right _)
  refine ⟨(sheltered_run hSheltered events).apart, hKept, fun tx hMem => ?_⟩
  rcases List.mem_append.mp (hKept.symm.subset hMem) with hWaiting | hBatched
  · exact Or.inl hWaiting
  · exact Or.inr (List.mem_flatMap.mp hBatched)

/-! ## Ids that overlap -/

def dollars (amount : Nat) : Token :=
  ⟨(Amount.ofNat? amount).getD .zero, "USD", ⟨.ofNat 20 7⟩⟩

/-- Five dollars for some destination, with a fee of one. -/
def fiveDollars (id : UInt64) (dest : Nat) : Transfer :=
  ⟨id, ⟨.ofNat 20 9⟩, ⟨.ofNat 20 dest⟩, dollars 5, dollars 1⟩

/-- A document with two transfers in a batch, of ids one and two, and one that waits under an id,
which is the last one given out. -/
def twoBatched (waiting : UInt64) : Genesis :=
  { Genesis.blank .default with
    batches := [⟨⟨1⟩, [fiveDollars 1 10, fiveDollars 2 10], dollars 2, ⟨.ofNat 20 7⟩, .ofNat 32 0,
      .pending⟩]
    transfers := [fiveDollars waiting 11]
    lastTransferId := waiting
    lastBatchNonce := ⟨1⟩ }

/-- After a deposit another transfer is sent, and the batch turns out to be superseded. -/
def superseding : List Event :=
  [.staking (.bond ⟨.ofNat 20 1⟩ 1 ⟨.ofNat 20 2⟩),
    .message (.claim ⟨.ofNat 20 2⟩ (.deposit ⟨1⟩ (dollars 600) ⟨.ofNat 20 8⟩ ⟨.ofNat 20 9⟩)),
    .message (.send ⟨.ofNat 20 9⟩ ⟨.ofNat 20 12⟩ (dollars 5) (dollars 1)),
    .message (.claim ⟨.ofNat 20 2⟩ (.batchExecuted ⟨1⟩ ⟨2⟩ ⟨.ofNat 20 7⟩))]

/-- Under an id of its own the waiting transfer is kept, and so are the others. -/
theorem custody_of_twoBatched :
    ∃ loaded, initGenesis (twoBatched 3) (default : Bridge).blank = .ok () loaded ∧
      loaded.sent superseding = [fiveDollars 4 12] ∧
      (loaded.run superseding).store.custody ~ (twoBatched 3).listed ++ [fiveDollars 4 12] ∧
      ((loaded.run superseding).store.custody.map Transfer.id).Nodup := by
  have hValid : (twoBatched 3).validate = .ok () := by decide +kernel
  have hLoad := initGenesis_apply hValid (default : Bridge).blank
  obtain ⟨hNodup, hKept, -⟩ := loaded_custody_run default _ (twoBatched 3) hLoad
    (by decide +kernel) (by decide +kernel) superseding
  generalize hLoaded : ({ (default : Bridge).blank with
    store := (default : Bridge).blank.store.load (twoBatched 3)
    params := (twoBatched 3).params } : Bridge) = loaded at hLoad hNodup hKept
  have hSent : loaded.sent superseding = [fiveDollars 4 12] := by
    rw [← hLoaded]
    decide +kernel
  rw [hSent] at hKept
  exact ⟨loaded, hLoad, hSent, hKept, hNodup⟩

/-- **Ids that overlap lose transfers.** The checks accept a document whose batch holds the id of the
waiting transfer and one that was not given out yet. Both ids are soon held twice, and the waiting
transfer and the one that was sent are lost when the batch is cancelled. -/
theorem overlapping_loses :
    ∃ loaded, initGenesis (twoBatched 1) (default : Bridge).blank = .ok () loaded ∧
      ¬(loaded.store.custody.map Transfer.id).Nodup ∧
      fiveDollars 1 11 ∈ (twoBatched 1).listed ∧ loaded.sent superseding = [fiveDollars 2 12] ∧
      (loaded.run superseding).store.custody = [fiveDollars 1 10, fiveDollars 2 10] := by
  have hValid : (twoBatched 1).validate = .ok () := by decide +kernel
  exact ⟨_, initGenesis_apply hValid (default : Bridge).blank, by decide +kernel⟩

end Bridge

end TokenBridge

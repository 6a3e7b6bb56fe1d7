import TokenBridge.Genesis
import TokenBridge.Proofs.Store.References
import TokenBridge.Proofs.Valsets.Canonical

/-!
# Valid documents

* `Genesis.Sound`: what a valid document is, field by field;
* `Genesis.validate_eq_ok`: the checks accept the sound documents and no others.
-/

namespace TokenBridge

/-- The transfer of an id that was given out. -/
def Transfer.Issued (tx : Transfer) (last : UInt64) : Prop :=
  tx.validate = .ok () ∧ 0 < tx.id.toNat ∧ tx.id.toNat ≤ last.toNat

/-- The claim is valid, and the fingerprint is that of the claim. -/
def Attestation.Genuine (a : Attestation) : Prop :=
  a.claim.validate = .ok () ∧ a.details = a.claim.fingerprint

namespace Genesis

variable {g : Genesis}

/-- A document of valid parts, in which no key is given twice and only what is there is
confirmed. -/
structure Sound (g : Genesis) : Prop where
  params : g.params.validate = .ok ()
  valsets : ∀ v ∈ g.valsets, v.validate = .ok ()
  valsetNonces : (g.valsets.map Valset.nonce).Nodup
  valsetConfirms : ∀ c ∈ g.valsetConfirms, c.nonce ∈ g.valsets.map Valset.nonce
  batches : ∀ batch ∈ g.batches, batch.nonce.toNat ≤ g.lastBatchNonce.toNat
  batchKeys : (g.batches.map Batch.key).Nodup
  batchConfirms : ∀ c ∈ g.batchConfirms, c.batchKey ∈ g.batches.map Batch.key
  transfers : ∀ tx ∈ g.transfers, tx.Issued g.lastTransferId
  transferIds : (g.transfers.map Transfer.id).Nodup
  attestations : ∀ a ∈ g.attestations, a.Genuine
  keys : ∀ r ∈ g.keys, r.address.requireNonZero = .ok ()
  keyAddresses : (g.keys.map KeyRegistration.address).Nodup

/-! ## Checks on lists -/

theorem requireEach_eq_ok {α : Type} {test : α → Bool} {fault : α → Invalid} {l : List α} :
    requireEach test fault l = .ok () ↔ ∀ a ∈ l, test a = true := by
  induction l with
  | nil => exact ⟨fun _ _ h => absurd h List.not_mem_nil, fun _ => rfl⟩
  | cons first rest ih =>
    rw [requireEach, List.forall_mem_cons]
    by_cases hFirst : test first = true
    · rw [if_pos hFirst, ih]
      exact (and_iff_right hFirst).symm
    · rw [if_neg hFirst]
      constructor
      · intro h
        cases h
      · exact fun h => absurd h.1 hFirst

/-- All subjects are among some keys, listed the other way round. -/
theorem requireListed_eq_ok {α κ : Type} [BEq κ] [LawfulBEq κ] {keys : List κ} {subject : α → κ}
    {fault : α → Invalid} {l : List α} :
    requireEach (fun a => keys.reverse.contains (subject a)) fault l = .ok () ↔
      ∀ a ∈ l, subject a ∈ keys := by
  simp only [requireEach_eq_ok, List.contains_iff_mem, List.mem_reverse]

theorem forM_eq_ok {α : Type} {check : α → Except Invalid Unit} {l : List α} :
    l.forM check = .ok () ↔ ∀ a ∈ l, check a = .ok () := by
  induction l with
  | nil => exact ⟨fun _ _ h => absurd h List.not_mem_nil, fun _ => rfl⟩
  | cons first rest ih =>
    show (check first >>= fun _ => rest.forM check) = .ok () ↔ _
    rw [Bridge.checked_bind_eq_ok, List.forall_mem_cons, ih]
    exact ⟨fun ⟨_, hFirst, hRest⟩ => ⟨hFirst, hRest⟩, fun ⟨hFirst, hRest⟩ => ⟨_, hFirst, hRest⟩⟩

/-- A walk over a list, whose keys are not used any more. -/
theorem distinct_bind_eq_ok {α κ ε : Type} [DecidableEq κ] {key : α → κ}
    {check : α → Except ε Unit} {clash : α → ε} {l : List α} {next : List κ → Except ε Unit} :
    (distinct key check clash [] l >>= next) = .ok () ↔
      (∀ a ∈ l, check a = .ok ()) ∧ (l.map key).Nodup ∧ next (l.map key).reverse = .ok () := by
  rw [Bridge.checked_bind_eq_ok]
  constructor
  · rintro ⟨keys, hWalk, hNext⟩
    obtain ⟨hChecks, hNodup, -, rfl⟩ := distinct_eq_ok.mp hWalk
    rw [List.append_nil] at hNext
    exact ⟨hChecks, hNodup, hNext⟩
  · rintro ⟨hChecks, hNodup, hNext⟩
    refine ⟨_, distinct_eq_ok.mpr ⟨hChecks, hNodup, fun _ _ => List.not_mem_nil, rfl⟩, ?_⟩
    rwa [List.append_nil]

/-! ## Checks on records -/

theorem validateBatch_eq_ok {batch : Batch} :
    g.validateBatch batch = .ok () ↔ batch.nonce.toNat ≤ g.lastBatchNonce.toNat := by
  rw [validateBatch]
  by_cases hAbove : g.lastBatchNonce < batch.nonce
  · rw [if_pos hAbove]
    constructor
    · intro h
      cases h
    · exact fun h => absurd hAbove (Nat.not_lt.mpr h)
  · rw [if_neg hAbove]
    exact ⟨fun _ => Nat.not_lt.mp hAbove, fun _ => rfl⟩

theorem validateTransfer_eq_ok {tx : Transfer} :
    g.validateTransfer tx = .ok () ↔ tx.Issued g.lastTransferId := by
  rw [validateTransfer, Bridge.checked_bind_eq_ok, Transfer.Issued]
  have hRange : (tx.id = 0 ∨ g.lastTransferId.toNat < tx.id.toNat) ↔
      ¬(0 < tx.id.toNat ∧ tx.id.toNat ≤ g.lastTransferId.toNat) := by
    rw [← UInt64.toNat_inj]
    show tx.id.toNat = 0 ∨ _ ↔ _
    omega
  constructor
  · rintro ⟨_, hValid, h⟩
    by_cases hOut : tx.id = 0 ∨ g.lastTransferId.toNat < tx.id.toNat
    · rw [if_pos hOut] at h
      cases h
    · exact ⟨hValid, Decidable.not_not.mp fun h => hOut (hRange.mpr h)⟩
  · rintro ⟨hValid, hIn⟩
    exact ⟨(), hValid, if_neg fun hOut => hRange.mp hOut hIn⟩

theorem validateAttestation_eq_ok {a : Attestation} :
    validateAttestation a = .ok () ↔ a.Genuine := by
  rw [validateAttestation, Bridge.checked_bind_eq_ok, Attestation.Genuine]
  constructor
  · rintro ⟨_, hValid, h⟩
    by_cases hStale : a.details ≠ a.claim.fingerprint
    · rw [if_pos hStale] at h
      cases h
    · exact ⟨hValid, Decidable.not_not.mp hStale⟩
  · rintro ⟨hValid, hDetails⟩
    exact ⟨(), hValid, if_neg fun hStale => hStale hDetails⟩

/-! ## Whole documents -/

/-- **The checks accept the sound documents and no others.** -/
theorem validate_eq_ok : g.validate = .ok () ↔ g.Sound := by
  rw [validate, Bridge.checked_bind_eq_ok]
  constructor
  · rintro ⟨_, hParams, h⟩
    obtain ⟨hValsets, hValsetNonces, h⟩ := distinct_bind_eq_ok.mp h
    obtain ⟨_, hValsetConfirms, h⟩ := Bridge.checked_bind_eq_ok.mp h
    obtain ⟨hBatches, hBatchKeys, h⟩ := distinct_bind_eq_ok.mp h
    obtain ⟨_, hBatchConfirms, h⟩ := Bridge.checked_bind_eq_ok.mp h
    obtain ⟨hTransfers, hTransferIds, h⟩ := distinct_bind_eq_ok.mp h
    obtain ⟨_, hAttestations, h⟩ := Bridge.checked_bind_eq_ok.mp h
    obtain ⟨hKeys, hKeyAddresses, -⟩ := distinct_bind_eq_ok.mp h
    exact ⟨hParams, hValsets, hValsetNonces, requireListed_eq_ok.mp hValsetConfirms,
      fun batch hMem => validateBatch_eq_ok.mp (hBatches batch hMem), hBatchKeys,
      requireListed_eq_ok.mp hBatchConfirms,
      fun tx hMem => validateTransfer_eq_ok.mp (hTransfers tx hMem), hTransferIds,
      fun a hMem => validateAttestation_eq_ok.mp (forM_eq_ok.mp hAttestations a hMem),
      fun r hMem => Bridge.mapError_eq_ok.mp (hKeys r hMem), hKeyAddresses⟩
  · intro h
    refine ⟨(), h.params, distinct_bind_eq_ok.mpr ⟨h.valsets, h.valsetNonces, ?_⟩⟩
    refine Bridge.checked_bind_eq_ok.mpr ⟨(), requireListed_eq_ok.mpr h.valsetConfirms, ?_⟩
    refine distinct_bind_eq_ok.mpr
      ⟨fun batch hMem => validateBatch_eq_ok.mpr (h.batches batch hMem), h.batchKeys, ?_⟩
    refine Bridge.checked_bind_eq_ok.mpr ⟨(), requireListed_eq_ok.mpr h.batchConfirms, ?_⟩
    refine distinct_bind_eq_ok.mpr
      ⟨fun tx hMem => validateTransfer_eq_ok.mpr (h.transfers tx hMem), h.transferIds, ?_⟩
    refine Bridge.checked_bind_eq_ok.mpr ⟨(), forM_eq_ok.mpr fun a hMem =>
      validateAttestation_eq_ok.mpr (h.attestations a hMem), ?_⟩
    exact distinct_bind_eq_ok.mpr
      ⟨fun r hMem => Bridge.mapError_eq_ok.mpr (h.keys r hMem), h.keyAddresses, rfl⟩

end Genesis

end TokenBridge

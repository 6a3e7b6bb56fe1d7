import TokenBridge.Proofs.Table.Building
import TokenBridge.Proofs.Withdrawals.Assembly

/-!
# Independent streams

Each kind of claims has its own tallies and its own cursor, and its effects go to its own part of
the state: deposits to the balances, executed batches to batches and the pool, executed signer sets
to signer sets. So claims of two kinds may come in either order.

* `Store.realm`: the part of the store that belongs to a kind; the store is its three realms and
  what no claim touches (`Store.eq_of_realms`);
* `Alike`, `Shares`: bridges that claims of a kind cannot tell apart;
* `parallel_submitClaim`: a claim is answered by its own realm, and changes it by what it was;
* `alike_submitClaim`: a claim leaves the realms of the other kinds alone;
* `submitClaim_comm`: claims of two kinds in either order.
-/

namespace TokenBridge

namespace Store

variable {s s' : Store} {kind : ClaimKind} {a : Attestation}

/-- Each tally stands under its own key just in the stores that tallies were put into one by one. -/
theorem filed_iff_exists_puts :
    s.Filed ↔ ∃ tallies : List Attestation,
      tallies.foldl (fun t a => t.insert a.key a) .empty = s.attestations := by
  constructor
  · exact fun h => ⟨s.attestations.values, h.foldl_insert_eq fun _ => Iff.rfl⟩
  · rintro ⟨tallies, hPuts⟩
    rw [Filed, ← hPuts]
    exact (Table.keyedBy_empty _).foldl_insert tallies

/-! ## Realms -/

/-- The part of a store that the claims of a kind read and change, with nothing else stored. -/
def realm (s : Store) (kind : ClaimKind) : Store :=
  let own : Store :=
    { empty with
      attestations := s.attestations.filter fun key _ => key.kind == kind
      claimCursors := s.claimCursors.filter fun k _ => k == kind }
  match kind with
  | .deposit => own
  | .batchExecuted =>
    { own with batches := s.batches, batchConfirms := s.batchConfirms, transfers := s.transfers }
  | .valsetExecuted =>
    { own with
      valsets := s.valsets, valsetConfirms := s.valsetConfirms, observedValset := s.observedValset }

/-- What no claim touches, with nothing else stored. -/
def unclaimed (s : Store) : Store :=
  { empty with
    confirmCursors := s.confirmCursors, lastBatchNonce := s.lastBatchNonce
    lastTransferId := s.lastTransferId, keys := s.keys }

theorem attestations_realm (s : Store) (kind : ClaimKind) :
    (s.realm kind).attestations = s.attestations.filter fun key _ => key.kind == kind := by
  cases kind with
  | _ => rfl

theorem claimCursors_realm (s : Store) (kind : ClaimKind) :
    (s.realm kind).claimCursors = s.claimCursors.filter fun k _ => k == kind := by
  cases kind with
  | _ => rfl

/-- Stores with the same realms are the same up to what no claim touches. -/
theorem eq_of_realms (hRealms : ∀ kind, s'.realm kind = s.realm kind)
    (hRest : s'.unclaimed = s.unclaimed) : s' = s := by
  have hTallies : s'.attestations = s.attestations := by
    refine Table.eq_of_filter AttestationKey.kind fun kind => ?_
    rw [← attestations_realm, ← attestations_realm, hRealms]
  have hCursors : s'.claimCursors = s.claimCursors := by
    refine Table.eq_of_filter id fun kind => ?_
    show (s'.claimCursors.filter fun k _ => k == kind) = s.claimCursors.filter fun k _ => k == kind
    rw [← claimCursors_realm, ← claimCursors_realm, hRealms]
  have hBatches := hRealms .batchExecuted
  have hValsets := hRealms .valsetExecuted
  obtain ⟨⟩ := s
  obtain ⟨⟩ := s'
  simp only [realm, unclaimed, empty, Store.mk.injEq] at hTallies hCursors hBatches hValsets hRest ⊢
  simp [*]

theorem attestationsAt_realm (s : Store) (kind : ClaimKind) (nonce : Nonce) :
    (s.realm kind).attestationsAt kind nonce = s.attestationsAt kind nonce := by
  have hSame : ((s.attestations.filter fun key _ => key.kind == kind).filter
      fun key _ => key.kind == kind && key.nonce == nonce) =
      s.attestations.filter fun key _ => key.kind == kind && key.nonce == nonce := by
    apply Table.ext_find?
    intro key
    rw [Table.find?_filter, Table.find?_filter, Table.find?_filter]
    cases s.attestations.find? key with
    | none => rfl
    | some a => by_cases hKind : key.kind = kind <;> simp [Option.filter, hKind]
  rw [attestationsAt, attestations_realm, hSame, attestationsAt]

theorem claimCursor_realm (s : Store) (kind : ClaimKind) :
    (s.realm kind).claimCursor kind = s.claimCursor kind := by
  rw [claimCursor, claimCursors_realm, Table.find?_filter_keys _ (· == kind), claimCursor]
  simp

/-! ## Changes inside a realm -/

theorem realm_putAttestation (hKind : a.claim.kind = kind) (s : Store) :
    (s.putAttestation a).realm kind = (s.realm kind).putAttestation a := by
  have hFilter : ((s.attestations.insert a.key a).filter fun key _ => key.kind == kind) =
      (s.attestations.filter fun key _ => key.kind == kind).insert a.key a :=
    Table.filter_insert_of_keep (fun key : AttestationKey => key.kind == kind)
      (beq_iff_eq.mpr hKind) _ _
  cases kind with
  | _ => simp only [realm, putAttestation, hFilter]

theorem realm_setClaimCursor (s : Store) (kind : ClaimKind) (nonce : Nonce) :
    (s.setClaimCursor kind nonce).realm kind = (s.realm kind).setClaimCursor kind nonce := by
  have hFilter : ((s.claimCursors.insert kind nonce).filter fun k _ => k == kind) =
      (s.claimCursors.filter fun k _ => k == kind).insert kind nonce :=
    Table.filter_insert_of_keep (· == kind) (beq_iff_eq.mpr rfl) _ _
  cases kind with
  | _ => simp only [realm, setClaimCursor, hFilter]

theorem realm_cancelBatch (s : Store) (batch : Batch) :
    (s.cancelBatch batch).realm .batchExecuted =
      (s.realm .batchExecuted).cancelBatch batch := by
  rw [cancelBatch_eq, cancelBatch_eq]
  rfl

theorem realm_closeBatch (s : Store) (contract : EthAddress) (nonce : Nonce) :
    (s.closeBatch contract nonce).realm .batchExecuted =
      (s.realm .batchExecuted).closeBatch contract nonce := by
  have hSame : (s.realm .batchExecuted).batch? contract nonce = s.batch? contract nonce := rfl
  rw [closeBatch, closeBatch, hSame]
  cases s.batch? contract nonce with
  | none => rfl
  | some batch =>
    by_cases hPending : batch.isPending = true
    · simp only [if_pos hPending]
      rfl
    · simp only [if_neg hPending]

theorem realm_executeBatch (s : Store) (contract : EthAddress) (nonce : Nonce) :
    (s.executeBatch contract nonce).realm .batchExecuted =
      (s.realm .batchExecuted).executeBatch contract nonce := by
  have hSame (s : Store) : (s.realm .batchExecuted).superseded contract nonce =
      s.superseded contract nonce := rfl
  rw [executeBatch, executeBatch, ← realm_closeBatch, hSame]
  have hFold (l : List Batch) (s : Store) : l.foldl cancelBatch (s.realm .batchExecuted) =
      (l.foldl cancelBatch s).realm .batchExecuted :=
    List.foldl_hom (fun s : Store => s.realm .batchExecuted) fun s batch =>
      (realm_cancelBatch s batch).symm
  exact (hFold _ _).symm

theorem realm_executeValset (s : Store) (nonce : Nonce) :
    (s.executeValset nonce).realm .valsetExecuted =
      (s.realm .valsetExecuted).executeValset nonce := by
  have hSame : (((s.realm .valsetExecuted).valset? nonce).isNone ||
      (s.realm .valsetExecuted).observedValset.any (nonce ≤ ·)) =
      ((s.valset? nonce).isNone || s.observedValset.any (nonce ≤ ·)) := rfl
  rw [executeValset, executeValset, hSame]
  by_cases hKept : ((s.valset? nonce).isNone || s.observedValset.any (nonce ≤ ·)) = true
  · rw [if_pos hKept, if_pos hKept]
  · rw [if_neg hKept, if_neg hKept]
    have hFold (l : List Nonce) (s : Store) :
        l.foldl dropValset (s.realm .valsetExecuted) =
          (l.foldl dropValset s).realm .valsetExecuted :=
      List.foldl_hom (fun s : Store => s.realm .valsetExecuted) fun _ _ => rfl
    exact (hFold (s.olderValsets nonce) { s with observedValset := some nonce }).symm

/-! ## Changes outside a realm -/

theorem realm_putAttestation_of_ne (hOther : kind ≠ a.claim.kind) (s : Store) :
    (s.putAttestation a).realm kind = s.realm kind := by
  have hFilter : ((s.attestations.insert a.key a).filter fun key _ => key.kind == kind) =
      s.attestations.filter fun key _ => key.kind == kind :=
    Table.filter_insert_of_not_keep (fun key : AttestationKey => key.kind == kind)
      (beq_eq_false_iff_ne.mpr hOther.symm) _ _
  cases kind with
  | _ => simp only [realm, putAttestation, hFilter]

theorem realm_setClaimCursor_of_ne {other : ClaimKind} (hOther : kind ≠ other) (s : Store)
    (nonce : Nonce) : (s.setClaimCursor other nonce).realm kind = s.realm kind := by
  have hFilter : ((s.claimCursors.insert other nonce).filter fun k _ => k == kind) =
      s.claimCursors.filter fun k _ => k == kind :=
    Table.filter_insert_of_not_keep (· == kind)
      (beq_eq_false_iff_ne.mpr hOther.symm) _ _
  cases kind with
  | _ => simp only [realm, setClaimCursor, hFilter]

theorem realm_executeBatch_of_ne (hOther : kind ≠ .batchExecuted) (s : Store)
    (contract : EthAddress) (nonce : Nonce) :
    (s.executeBatch contract nonce).realm kind = s.realm kind := by
  obtain ⟨batches, batchConfirms, transfers, hFrame⟩ := s.executeBatch_frame contract nonce
  rw [hFrame]
  cases kind with
  | deposit => rfl
  | batchExecuted => exact absurd rfl hOther
  | valsetExecuted => rfl

theorem realm_executeValset_of_ne (hOther : kind ≠ .valsetExecuted) (s : Store) (nonce : Nonce) :
    (s.executeValset nonce).realm kind = s.realm kind := by
  obtain ⟨valsets, valsetConfirms, observed, hFrame⟩ := s.executeValset_frame nonce
  rw [hFrame]
  cases kind with
  | deposit => rfl
  | batchExecuted => rfl
  | valsetExecuted => exact absurd rfl hOther

end Store

namespace Bridge

variable {b b' m m' p q : Bridge} {kind : ClaimKind} {claim : Claim} {a : Attestation}
  {validator : ValidatorAddress} {power : UInt64} {outcome : ClaimOutcome}
  {orchestrator : AccountAddress}

/-! ## Bridges that claims of a kind cannot tell apart -/

/-- Claims of a kind see the same settings, the same validators, the same realm and, if they pay
out, the same balances. -/
structure Alike (kind : ClaimKind) (b m : Bridge) : Prop where
  params : m.params = b.params
  registry : m.registry = b.registry
  store : m.store.realm kind = b.store.realm kind
  ledger : kind = .deposit → m.ledger = b.ledger

theorem Alike.refl (kind : ClaimKind) (b : Bridge) : Alike kind b b :=
  ⟨rfl, rfl, rfl, fun _ => rfl⟩

theorem Alike.symm (h : Alike kind b m) : Alike kind m b :=
  ⟨h.params.symm, h.registry.symm, h.store.symm, fun hKind => (h.ledger hKind).symm⟩

theorem Alike.trans (h : Alike kind b m) (h' : Alike kind m p) : Alike kind b p :=
  ⟨h'.params.trans h.params, h'.registry.trans h.registry, h'.store.trans h.store,
    fun hKind => (h'.ledger hKind).trans (h.ledger hKind)⟩

/-- Bridges that claims of a kind cannot tell apart, and that have reported and counted the same
since two earlier states. -/
structure Shares (kind : ClaimKind) (p q b m : Bridge) : Prop extends Alike kind b m where
  filed : b.store.Filed
  signals : ∃ new, b.signals = p.signals ++ new ∧ m.signals = q.signals ++ new
  counters : ∀ counter, b.counters counter + q.counters counter =
    m.counters counter + p.counters counter

theorem Alike.shares (h : Alike kind b m) (hFiled : b.store.Filed) : Shares kind b m b m :=
  { h with
    filed := hFiled
    signals := ⟨[], (List.append_nil _).symm, (List.append_nil _).symm⟩
    counters := fun _ => Nat.add_comm _ _ }

theorem Shares.attestationsAt (h : Shares kind p q b m) (nonce : Nonce) :
    m.store.attestationsAt kind nonce = b.store.attestationsAt kind nonce := by
  rw [← Store.attestationsAt_realm, h.store, Store.attestationsAt_realm]

theorem Shares.claimCursor (h : Shares kind p q b m) :
    m.store.claimCursor kind = b.store.claimCursor kind := by
  rw [← Store.claimCursor_realm, h.store, Store.claimCursor_realm]

theorem Shares.signer (h : Shares kind p q b m) (orchestrator : AccountAddress) :
    m.signer orchestrator = b.signer orchestrator := by
  rw [Bridge.signer, h.registry, Bridge.signer]

/-! ## Claims in their own realm -/

theorem parallel_write {f : Store → Store} (hRealm : ∀ s, (f s).realm kind = f (s.realm kind))
    (hFiled : ∀ s : Store, s.Filed → (f s).Filed) :
    Parallel (Shares kind p q) (write f) (write f) := by
  refine parallel_modify fun b m h => { h with store := ?_, filed := hFiled _ h.filed }
  rw [hRealm, hRealm, h.store]

theorem Shares.bump (h : Shares kind p q b m) (counter : Counter) :
    Shares kind p q { b with counters := b.counters.bump counter }
      { m with counters := m.counters.bump counter } := by
  refine { h with counters := fun other => ?_ }
  have hOther := h.counters other
  simp only [Counters.bump]
  split <;> omega

theorem parallel_count (counter : Counter) :
    Parallel (Shares kind p q) (count counter) (count counter) :=
  parallel_modify fun _ _ h => h.bump counter

theorem parallel_report (signals : List SlashingSignal) :
    Parallel (Shares kind p q) (report signals) (report signals) := by
  refine parallel_modify fun b m h => { h with signals := ?_ }
  obtain ⟨new, hLeft, hRight⟩ := h.signals
  refine ⟨new ++ signals, ?_, ?_⟩
  · rw [← List.append_assoc, ← hLeft]
  · rw [← List.append_assoc, ← hRight]

theorem parallel_putAttestation (hKind : a.claim.kind = kind) :
    Parallel (Shares kind p q) (write fun s => s.putAttestation a)
      (write fun s => s.putAttestation a) :=
  parallel_write (Store.realm_putAttestation hKind) fun _ hFiled => Table.KeyedBy.insert hFiled a

theorem parallel_enact (claim : Claim) :
    Parallel (Shares claim.kind p q) (enact claim) (enact claim) := by
  cases claim with
  | deposit nonce token sender receiver =>
    refine Parallel.get_bind fun b m h => ?_
    rw [h.ledger rfl]
    exact Parallel.check_bind fun ledger _ => parallel_set { h with ledger := fun _ => rfl }
  | batchExecuted nonce batchNonce contract =>
    refine parallel_write (fun s => s.realm_executeBatch contract batchNonce) fun s hFiled => ?_
    obtain ⟨_, _, _, hFrame⟩ := s.executeBatch_frame contract batchNonce
    rw [hFrame]
    exact hFiled
  | valsetExecuted nonce valsetNonce =>
    refine parallel_write (fun s => s.realm_executeValset valsetNonce) fun s hFiled => ?_
    obtain ⟨_, _, _, hFrame⟩ := s.executeValset_frame valsetNonce
    rw [hFrame]
    exact hFiled

theorem parallel_finalizeIfMet (hKind : a.claim.kind = kind) :
    Parallel (Shares kind p q) (finalizeIfMet a) (finalizeIfMet a) := by
  subst hKind
  refine Parallel.get_bind fun b m h => ?_
  rw [h.registry, h.params]
  cases hFinal : a.finalize? b.registry.totalPower.toNat b.params.threshold with
  | none => exact parallel_pure false
  | some done =>
    obtain ⟨-, -, rfl⟩ := Attestation.finalize?_eq_some.mp hFinal
    refine (parallel_enact a.claim).bind fun _ => Parallel.bind ?_ fun _ =>
      (parallel_count _).bind fun _ => parallel_pure true
    refine parallel_write (fun s => ?_) fun s hFiled => Table.KeyedBy.insert hFiled a.close
    have hClose : (s.putAttestation a.close).realm a.claim.kind =
        (s.realm a.claim.kind).putAttestation a.close :=
      Store.realm_putAttestation rfl s
    rw [Store.realm_setClaimCursor, hClose]

theorem parallel_flagEquivocation (hKind : a.claim.kind = kind) (validator : ValidatorAddress)
    (first : Digest) : Parallel (Shares kind p q) (flagEquivocation a validator first)
      (flagEquivocation a validator first) := by
  have hAudit : (a.recordAudit validator).claim.kind = kind := by
    rw [(Attestation.grows_recordAudit a validator).claim_eq, hKind]
  exact (parallel_putAttestation hAudit).bind fun _ => (parallel_report _).bind fun _ =>
    (parallel_count _).bind fun _ => parallel_pure _

theorem kind_tallyOf (hFiled : b.store.Filed) (claim : Claim) :
    (tallyOf (b.store.attestationsAt claim.kind claim.nonce) claim).claim.kind = claim.kind :=
  congrArg AttestationKey.kind (key_tally hFiled claim)

theorem parallel_vote (validator : ValidatorAddress) (power : UInt64) (claim : Claim) :
    Parallel (Shares claim.kind p q) (vote validator power claim) (vote validator power claim) := by
  intro b m h
  have hKind := kind_tallyOf h.filed claim
  rw [vote_apply, vote_apply, tally, tally, priorVote?, priorVote?, tallies, tallies,
    h.attestationsAt]
  generalize b.store.attestationsAt claim.kind claim.nonce = existing at hKind ⊢
  cases existing.find? fun a => a.hasVoted validator with
  | some prior =>
    refine Parallel.ite ?_ (parallel_flagEquivocation hKind validator prior.details) b m h
    refine (parallel_finalizeIfMet hKind).bind fun done => ?_
    cases done with
    | true => exact parallel_pure _
    | false => exact parallel_pure _
  | none =>
    refine Parallel.check_bind (fun cast hAdd => ?_) b m h
    obtain ⟨-, -, rfl⟩ := Attestation.addVote_eq_ok.mp (mapError_eq_ok.mp hAdd)
    have hCast : ((tallyOf existing claim).cast validator power).claim.kind = claim.kind := hKind
    refine (parallel_finalizeIfMet hCast).bind fun done => ?_
    cases done with
    | true => exact parallel_pure _
    | false => exact (parallel_putAttestation hCast).bind fun _ => parallel_pure _

theorem parallel_recordLate (validator : ValidatorAddress) (claim : Claim) (expected : Nonce) :
    Parallel (Shares claim.kind p q) (recordLate validator claim expected)
      (recordLate validator claim expected) := by
  intro b m h
  have hKind := kind_tallyOf h.filed claim
  rw [recordLate_apply, recordLate_apply, tally, tally, rival?, rival?, tallies, tallies,
    h.attestationsAt]
  generalize b.store.attestationsAt claim.kind claim.nonce = existing at hKind ⊢
  refine Parallel.ite (parallel_throw _) (Parallel.ite (parallel_pure _) ?_) b m h
  cases existing.find? fun a => a.details != claim.fingerprint && a.isRecorded validator with
  | some rival => exact parallel_flagEquivocation hKind validator rival.details
  | none =>
    refine (parallel_putAttestation ?_).bind fun _ => parallel_pure _
    rw [(Attestation.grows_recordAudit _ validator).claim_eq, hKind]

theorem parallel_judge (orchestrator : AccountAddress) (claim : Claim) :
    Parallel (Shares claim.kind p q) (judge orchestrator claim) (judge orchestrator claim) := by
  refine Parallel.get_bind fun b m h => ?_
  rw [h.signer, h.claimCursor]
  refine Parallel.check_bind fun _ _ => Parallel.check_bind fun signer _ =>
    Parallel.check_bind fun expected _ => ?_
  exact Parallel.ite (parallel_recordLate _ _ _)
    (Parallel.ite (parallel_vote _ _ _) (parallel_throw _))

/-- **A claim is answered by its own realm**, and changes it by what it was. -/
theorem parallel_submitClaim (orchestrator : AccountAddress) (claim : Claim) :
    Parallel (Shares claim.kind p q) (submitClaim orchestrator claim)
      (submitClaim orchestrator claim) := by
  intro b m h
  have hJudge := parallel_judge orchestrator claim b m h
  rw [submitClaim, submitClaim]
  generalize judge orchestrator claim b = r, judge orchestrator claim m = s at hJudge
  cases hJudge with
  | ok outcome hAfter => exact .ok outcome (hAfter.bump (.submitted outcome))
  | error refusal hAfter => exact .error refusal (hAfter.bump (.rejected refusal.reason))

/-! ## Claims of other kinds -/

theorem Enacted.alike (h : Enacted b claim m) (hOther : kind ≠ claim.kind) : Alike kind b m := by
  cases h with
  | credited hMint => exact ⟨rfl, rfl, rfl, fun hKind => absurd hKind hOther⟩
  | batch => exact ⟨rfl, rfl, Store.realm_executeBatch_of_ne hOther _ _ _, fun _ => rfl⟩
  | valset => exact ⟨rfl, rfl, Store.realm_executeValset_of_ne hOther _ _, fun _ => rfl⟩

theorem Enacted.unclaimed_eq (h : Enacted b claim m) :
    m.store.unclaimed = b.store.unclaimed := by
  cases h with
  | credited hMint => rfl
  | @batch nonce batchNonce contract =>
    obtain ⟨_, _, _, hFrame⟩ := b.store.executeBatch_frame contract batchNonce
    rw [hFrame]
    rfl
  | @valset nonce valsetNonce =>
    obtain ⟨_, _, _, hFrame⟩ := b.store.executeValset_frame valsetNonce
    rw [hFrame]
    rfl

theorem Judged.alike (hFiled : b.store.Filed) (h : Judged b validator power claim outcome b')
    (hOther : kind ≠ claim.kind) : Alike kind b b' := by
  rcases h.claims_cases with ⟨-, rfl⟩ | ⟨-, a, hAmended, hStore, hLedger, hRegistry⟩ |
    ⟨-, -, a, m, hAmended, -, -, hEnacted, rfl⟩
  · exact .refl kind _
  · have hKind := hAmended.kind_eq hFiled
    refine ⟨h.params_eq, hRegistry, ?_, fun _ => hLedger⟩
    rw [hStore, Store.realm_putAttestation_of_ne (hKind ▸ hOther)]
  · have hKind := hAmended.kind_eq hFiled
    refine (hEnacted.alike (hKind ▸ hOther)).trans ⟨rfl, rfl, ?_, fun _ => rfl⟩
    rw [settle, Store.realm_setClaimCursor_of_ne (hKind ▸ hOther),
      Store.realm_putAttestation_of_ne (a := a.close) (hKind ▸ hOther)]

theorem Judged.unclaimed_eq (h : Judged b validator power claim outcome b') :
    b'.store.unclaimed = b.store.unclaimed := by
  rcases h.claims_cases with ⟨-, rfl⟩ | ⟨-, a, -, hStore, -, -⟩ |
    ⟨-, -, a, m, -, -, -, hEnacted, rfl⟩
  · rfl
  · rw [hStore]
    rfl
  · exact hEnacted.unclaimed_eq

/-- **A claim leaves the realms of the other kinds alone.** -/
theorem alike_submitClaim (hFiled : b.store.Filed) (orchestrator : AccountAddress) {claim : Claim}
    (hOther : kind ≠ claim.kind) : Alike kind b (left (submitClaim orchestrator claim) b) := by
  rw [left]
  cases hSubmit : submitClaim orchestrator claim b with
  | error refusal b' =>
    rw [submitClaim_eq_error hSubmit]
    exact ⟨rfl, rfl, rfl, fun _ => rfl⟩
  | ok outcome b' =>
    obtain ⟨m, hJudge, rfl⟩ := submitClaim_eq_ok hSubmit
    obtain ⟨validator, power, -, -, hJudged⟩ := judge_eq_ok hJudge
    have hAlike := hJudged.alike hFiled hOther
    exact ⟨hAlike.params, hAlike.registry, hAlike.store, hAlike.ledger⟩

theorem unclaimed_submitClaim (orchestrator : AccountAddress) (claim : Claim) (b : Bridge) :
    (left (submitClaim orchestrator claim) b).store.unclaimed = b.store.unclaimed := by
  rw [left]
  cases hSubmit : submitClaim orchestrator claim b with
  | error refusal b' => rw [submitClaim_eq_error hSubmit]
  | ok outcome b' =>
    obtain ⟨m, hJudge, rfl⟩ := submitClaim_eq_ok hSubmit
    obtain ⟨validator, power, -, -, hJudged⟩ := judge_eq_ok hJudge
    exact hJudged.unclaimed_eq

/-! ## Claims of two kinds -/

section

variable {first second : Claim} (hFiled : b.store.Filed) (hKinds : first.kind ≠ second.kind)
  (orchestrator other : AccountAddress)

include hFiled hKinds

/-- A claim does to its realm after a claim of another kind what it does at once. -/
theorem shares_after_other :
    Shares second.kind b (left (submitClaim orchestrator first) b)
      (left (submitClaim other second) b)
      (left (submitClaim other second) (left (submitClaim orchestrator first) b)) :=
  (parallel_submitClaim other second).left
    ((alike_submitClaim hFiled orchestrator hKinds.symm).shares hFiled)

/-- After claims of two kinds in either order, no claim of any kind can tell which came first. -/
theorem alike_comm (kind : ClaimKind) :
    Alike kind (left (submitClaim other second) (left (submitClaim orchestrator first) b))
      (left (submitClaim orchestrator first) (left (submitClaim other second) b)) := by
  have hFirst : (left (submitClaim orchestrator first) b).store.Filed :=
    ((parallel_submitClaim orchestrator first).left ((Alike.refl _ b).shares hFiled)).filed
  have hSecond : (left (submitClaim other second) b).store.Filed :=
    ((parallel_submitClaim other second).left ((Alike.refl _ b).shares hFiled)).filed
  by_cases hKind : kind = first.kind
  · subst hKind
    have hRest := alike_submitClaim hFirst other hKinds
    exact hRest.symm.trans (shares_after_other hFiled hKinds.symm other orchestrator).toAlike
  · have hRest := alike_submitClaim (b := b) hFiled orchestrator hKind
    have hBack := alike_submitClaim hSecond orchestrator hKind
    by_cases hKind' : kind = second.kind
    · subst hKind'
      exact (shares_after_other hFiled hKinds orchestrator other).toAlike.symm.trans hBack
    · have hThere := alike_submitClaim hFirst other hKind'
      have hOther := alike_submitClaim hFiled other hKind'
      exact (hRest.trans hThere).symm.trans (hOther.trans hBack)

end

/-- **Streams are independent.** Let each stored tally stand under its own key, which is how tallies
are put into a store (`Store.filed_iff_exists_puts`). Two claims of different kinds are answered the
same in either order, and leave the same store, balances, settings and counts, and the same reports
up to their order. -/
theorem submitClaim_comm (b : Bridge) (hFiled : b.store.Filed) (orchestrator other : AccountAddress)
    (first second : Claim) (hKinds : first.kind ≠ second.kind) :
    let there := left (submitClaim other second) (left (submitClaim orchestrator first) b)
    let back := left (submitClaim orchestrator first) (left (submitClaim other second) b)
    answer (submitClaim other second) (left (submitClaim orchestrator first) b) =
        answer (submitClaim other second) b ∧
      answer (submitClaim orchestrator first) (left (submitClaim other second) b) =
        answer (submitClaim orchestrator first) b ∧
      back.store = there.store ∧ back.ledger = there.ledger ∧ back.params = there.params ∧
      back.registry = there.registry ∧ back.counters = there.counters ∧
      back.signals.Perm there.signals := by
  intro there back
  have hAlike := alike_comm hFiled hKinds orchestrator other
  have hThere := shares_after_other hFiled hKinds orchestrator other
  have hBack := shares_after_other hFiled hKinds.symm other orchestrator
  have hAnswer := (parallel_submitClaim other second).answer_eq
    ((alike_submitClaim hFiled orchestrator hKinds.symm).shares hFiled)
  have hAnswer' := (parallel_submitClaim orchestrator first).answer_eq
    ((alike_submitClaim hFiled other hKinds).shares hFiled)
  refine ⟨hAnswer.symm, hAnswer'.symm, ?_, (hAlike .deposit).ledger rfl, (hAlike .deposit).params,
    (hAlike .deposit).registry, ?_, ?_⟩
  · refine Store.eq_of_realms (fun kind => (hAlike kind).store) ?_
    rw [unclaimed_submitClaim, unclaimed_submitClaim, unclaimed_submitClaim, unclaimed_submitClaim]
  · funext counter
    have hCount : _ = there.counters counter + _ := hThere.counters counter
    have hCount' : _ = back.counters counter + _ := hBack.counters counter
    omega
  · obtain ⟨new, hNew, hEnd⟩ := hThere.signals
    obtain ⟨new', hNew', hEnd'⟩ := hBack.signals
    rw [hEnd, hEnd', hNew, hNew', List.append_assoc, List.append_assoc]
    exact List.perm_append_comm.append_left b.signals

/-- A withdrawal waits in a batch. -/
def batchUnderway : List Event :=
  anchored ++ [.message (.claim ⟨.ofNat 20 2⟩ (depositOf ⟨1⟩ 600)),
    queuing (withdrawal "USD" 1 1), .message (.buildBatch ⟨.ofNat 20 7⟩)]

/-- A deposit and the execution of a stored batch may come in either order. -/
theorem submitClaim_comm_batchUnderway :
    let b := (default : Bridge).blank.run batchUnderway
    let deposit := submitClaim ⟨.ofNat 20 2⟩ (depositOf ⟨2⟩ 100)
    let executed := submitClaim ⟨.ofNat 20 2⟩ (.batchExecuted ⟨1⟩ ⟨1⟩ ⟨.ofNat 20 7⟩)
    b.store.batches.values.map Batch.status = [.pending] ∧
      (left executed b).store.batches.values.map Batch.status = [.executed] ∧
      answer deposit b = .ok .finalized ∧ answer executed b = .ok .finalized ∧
      answer deposit (left executed b) = .ok .finalized ∧
      answer executed (left deposit b) = .ok .finalized ∧
      (left deposit (left executed b)).store = (left executed (left deposit b)).store ∧
      (left deposit (left executed b)).ledger = (left executed (left deposit b)).ledger := by
  intro b deposit executed
  have hRun : b.store.batches.values.map Batch.status = [.pending] ∧
      (left executed b).store.batches.values.map Batch.status = [.executed] ∧
      answer deposit b = .ok .finalized ∧ answer executed b = .ok .finalized := by
    decide +kernel
  obtain ⟨hPending, hClosed, hDeposit, hExecuted⟩ := hRun
  have hAgreed : b.store.Agreed := agreed_run Store.agreed_empty batchUnderway
  obtain ⟨hSecond, hFirst, hStore, hLedger, -⟩ := submitClaim_comm b hAgreed.filed
    ⟨.ofNat 20 2⟩ ⟨.ofNat 20 2⟩ (depositOf ⟨2⟩ 100) (.batchExecuted ⟨1⟩ ⟨1⟩ ⟨.ofNat 20 7⟩)
    (by decide)
  exact ⟨hPending, hClosed, hDeposit, hExecuted, hFirst.trans hDeposit, hSecond.trans hExecuted,
    hStore, hLedger⟩

end Bridge

end TokenBridge

import TokenBridge.Proofs.Claims.Equivocations

/-!
# First votes

The claim of a validator that is not on record at the nonce yet. At the nonce after the cursor it
is a vote, unless it would settle the nonce and its effect is refused; at the cursor it only goes
on record.

* `untallied`: a bridge without its tallies and counts;
* `executeBatch_attestations`, `Enacted.congr`: effects do not depend on tallies;
* `Counted`, `counted_after`: what a first vote does;
* `untallied_after_late`: a late claim changes tallies and counts only.
-/

namespace TokenBridge

namespace Store

/-! ## Effects and tallies -/

theorem closeBatch_attestations (s : Store) (attestations : Table AttestationKey Attestation)
    (contract : EthAddress) (nonce : Nonce) :
    ({ s with attestations } : Store).closeBatch contract nonce =
      { s.closeBatch contract nonce with attestations } := by
  have hSame : ({ s with attestations } : Store).batch? contract nonce = s.batch? contract nonce :=
    rfl
  rw [closeBatch, closeBatch, hSame]
  cases s.batch? contract nonce with
  | none => rfl
  | some batch =>
    by_cases hPending : batch.isPending = true
    · simp only [if_pos hPending]
      rfl
    · simp only [if_neg hPending]

theorem executeBatch_attestations (s : Store) (attestations : Table AttestationKey Attestation)
    (contract : EthAddress) (nonce : Nonce) :
    ({ s with attestations } : Store).executeBatch contract nonce =
      { s.executeBatch contract nonce with attestations } := by
  rw [executeBatch, closeBatch_attestations]
  refine List.foldl_hom (fun s : Store => { s with attestations }) fun s batch => ?_
  rw [cancelBatch_eq, cancelBatch_eq]

theorem executeValset_attestations (s : Store) (attestations : Table AttestationKey Attestation)
    (nonce : Nonce) :
    ({ s with attestations } : Store).executeValset nonce =
      { s.executeValset nonce with attestations } := by
  have hSame : ((({ s with attestations } : Store).valset? nonce).isNone ||
      ({ s with attestations } : Store).observedValset.any (nonce ≤ ·)) =
      ((s.valset? nonce).isNone || s.observedValset.any (nonce ≤ ·)) := rfl
  rw [executeValset, executeValset, hSame]
  by_cases hKept : ((s.valset? nonce).isNone || s.observedValset.any (nonce ≤ ·)) = true
  · rw [if_pos hKept, if_pos hKept]
  · rw [if_neg hKept, if_neg hKept]
    have hFold (l : List Nonce) (t : Store) : l.foldl dropValset { t with attestations } =
        { l.foldl dropValset t with attestations } :=
      List.foldl_hom (fun s : Store => { s with attestations }) fun _ _ => rfl
    exact hFold (s.olderValsets nonce) { s with observedValset := some nonce }

end Store

namespace Bridge

variable {b b' m n : Bridge} {validator : ValidatorAddress} {power : UInt64} {claim : Claim}
  {orchestrator : AccountAddress} {a : Attestation}

/-- A bridge without its tallies and its counts: all that claims have an effect on. -/
def untallied (b : Bridge) : Bridge :=
  { b with store := { b.store with attestations := .empty }, counters := .zero }

/-- Bridges that are the same without tallies and counts differ in them only. -/
theorem exists_of_untallied_eq (h : m.untallied = b.untallied) :
    ∃ attestations counters,
      m = { b with store := { b.store with attestations }, counters } := by
  refine ⟨m.store.attestations, m.counters, ?_⟩
  obtain ⟨params, ⟨⟩, registry, ledger, signals, counters⟩ := m
  obtain ⟨params', ⟨⟩, registry', ledger', signals', counters'⟩ := b
  simp only [untallied, Bridge.mk.injEq, Store.mk.injEq] at h ⊢
  simp_all

theorem registry_of_untallied (h : m.untallied = b.untallied) : m.registry = b.registry :=
  show m.untallied.registry = b.untallied.registry by rw [h]

theorem params_of_untallied (h : m.untallied = b.untallied) : m.params = b.params :=
  show m.untallied.params = b.untallied.params by rw [h]

theorem claimCursors_of_untallied (h : m.untallied = b.untallied) :
    m.store.claimCursors = b.store.claimCursors :=
  show m.untallied.store.claimCursors = b.untallied.store.claimCursors by rw [h]

theorem Enacted.congr (h : Enacted b claim n) (hSame : m.untallied = b.untallied) :
    ∃ n', Enacted m claim n' ∧ n'.untallied = n.untallied := by
  obtain ⟨attestations, counters, rfl⟩ := exists_of_untallied_eq hSame
  cases h with
  | credited hMint => exact ⟨_, .credited hMint, rfl⟩
  | batch =>
    refine ⟨_, .batch, ?_⟩
    simp only [Store.executeBatch_attestations]
    rfl
  | valset =>
    refine ⟨_, .valset, ?_⟩
    simp only [Store.executeValset_attestations]
    rfl

theorem Enacted.registry_eq (h : Enacted b claim m) : m.registry = b.registry := by
  cases h with
  | _ => rfl

theorem Enacted.unique (h : Enacted b claim m) (h' : Enacted b claim n) : m = n := by
  cases h with
  | credited hMint =>
    cases h' with
    | credited hMint' =>
      rw [hMint] at hMint'
      cases hMint'
      rfl
  | batch =>
    cases h'
    rfl
  | valset =>
    cases h'
    rfl

theorem enact_of_enacted (h : Enacted b claim m) : enact claim b = .ok () m := by
  cases h with
  | credited hMint =>
    rw [enact, get_bind_apply, check_bind_of_ok hMint]
    rfl
  | batch => rfl
  | valset => rfl

/-! ## Votes at the nonce after the cursor -/

theorem finalizeIfMet_of_short (hShort : b.carries a = false) :
    finalizeIfMet a b = .ok false b := by
  have hOpen : a.finalize? b.registry.totalPower.toNat b.params.threshold = none := by
    refine Option.eq_none_iff_forall_ne_some.mpr fun done hFinal => ?_
    have hMet : b.carries a = true := (Attestation.finalize?_eq_some.mp hFinal).2.1
    rw [hShort] at hMet
    cases hMet
  rw [finalizeIfMet, get_bind_apply, hOpen]
  rfl

theorem finalizeIfMet_of_met (hOpen : a.finalized = false) (hMet : b.carries a = true) :
    finalizeIfMet a b = (enact a.claim >>= fun _ => do
      write fun s => (s.putAttestation a.close).setClaimCursor a.claim.kind a.claim.nonce
      count (.finalized a.claim.kind)
      return true : Handler Bool) b := by
  have hFinal : a.finalize? b.registry.totalPower.toNat b.params.threshold = some a.close :=
    Attestation.finalize?_eq_some.mpr ⟨hOpen, hMet, rfl⟩
  rw [finalizeIfMet, get_bind_apply, hFinal]

/-- A sound claim of a validator with power is judged by its nonce. -/
theorem judge_apply (hValid : claim.validate = .ok ())
    (hSigner : b.signer orchestrator = .ok (validator, power)) :
    judge orchestrator claim b = (do
      let expected ← check (following (b.store.claimCursor claim.kind))
      if claim.nonce ≤ b.store.claimCursor claim.kind then recordLate validator claim expected
      else if claim.nonce = expected then vote validator power claim
      else throw (.outOfSequence expected claim.nonce) : Handler ClaimOutcome) b := by
  rw [judge, get_bind_apply, check_bind_of_ok (mapError_eq_ok.mpr hValid),
    check_bind_of_ok hSigner]

theorem judge_of_first (hValid : claim.validate = .ok ())
    (hSigner : b.signer orchestrator = .ok (validator, power))
    (hNext : following (b.store.claimCursor claim.kind) = .ok claim.nonce)
    (hNew : b.priorVote? claim validator = none)
    (hFresh : (b.tally claim).hasVoted validator = false)
    (hOpen : (b.tally claim).finalized = false) :
    judge orchestrator claim b = (do
      if ← finalizeIfMet ((b.tally claim).cast validator power) then return .finalized
      write fun s => s.putAttestation ((b.tally claim).cast validator power)
      return .accepted : Handler ClaimOutcome) b := by
  have hAbove : ¬claim.nonce ≤ b.store.claimCursor claim.kind := by
    refine Nat.not_le.mpr ?_
    rw [following_eq_ok hNext]
    exact Nat.lt_succ_self _
  have hAdd : ((b.tally claim).addVote validator power).mapError BridgeError.invalid =
      .ok ((b.tally claim).cast validator power) :=
    mapError_eq_ok.mpr (Attestation.addVote_eq_ok.mpr ⟨hOpen, hFresh, rfl⟩)
  rw [judge_apply hValid hSigner, check_bind_of_ok hNext]
  simp only [if_neg hAbove, if_true]
  rw [vote_apply, hNew]
  exact check_bind_of_ok hAdd

/-- What becomes of a first vote, given the tally with the vote: it is counted, or it settles the
nonce, or it is refused because it would settle the nonce with an effect that is refused. -/
inductive Counted (b : Bridge) (a : Attestation) : Bridge → Prop
  | short {counters : Counters} (hShort : b.carries a = false) :
      Counted b a { b.record a with counters }
  | carried {m : Bridge} {counters : Counters} (hMet : b.carries a = true)
      (hEnacted : Enacted b a.claim m) : Counted b a { m.settle a with counters }
  | barred {counters : Counters} (hMet : b.carries a = true)
      (hBarred : ∀ m, ¬Enacted b a.claim m) : Counted b a { b with counters }

/-- **What a first vote does.** -/
theorem counted_after (hValid : claim.validate = .ok ())
    (hSigner : b.signer orchestrator = .ok (validator, power))
    (hNext : following (b.store.claimCursor claim.kind) = .ok claim.nonce)
    (hNew : b.priorVote? claim validator = none)
    (hFresh : (b.tally claim).hasVoted validator = false)
    (hOpen : (b.tally claim).finalized = false) :
    Counted b ((b.tally claim).cast validator power)
      (b.after (.message (.claim orchestrator claim))) := by
  have hJudge := judge_of_first hValid hSigner hNext hNew hFresh hOpen
  have hCastOpen : ((b.tally claim).cast validator power).finalized = false := hOpen
  generalize (b.tally claim).cast validator power = a at hJudge hCastOpen ⊢
  rw [after_claim, left, submitClaim, hJudge]
  cases hMet : b.carries a with
  | false =>
    rw [bind_of_ok (finalizeIfMet_of_short hMet)]
    exact .short hMet
  | true =>
    have hFinal := finalizeIfMet_of_met hCastOpen hMet
    cases hEnact : enact a.claim b with
    | ok u m =>
      rw [bind_of_ok hEnact] at hFinal
      rw [bind_of_ok (hFinal.trans rfl)]
      exact .carried hMet (enacted_of_ok hEnact)
    | error refusal m =>
      rw [bind_of_error hEnact] at hFinal
      rw [bind_of_error hFinal, clean_enact _ hEnact]
      refine .barred hMet fun n hEnacted => ?_
      rw [enact_of_enacted hEnacted] at hEnact
      cases hEnact

/-! ## Claims at the cursor -/

/-- A validator that is not on record at a nonce has neither voted nor contradicted itself there. -/
theorem not_recorded_of_not_records
    (hNone : ∀ details, ¬b.store.Records validator ⟨claim.kind, claim.nonce, details⟩) :
    ∀ a ∈ b.tallies claim, a.isRecorded validator = false := by
  intro a hMem
  obtain ⟨details, hFound⟩ := Store.mem_attestationsAt.mp hMem
  exact Bool.eq_false_iff.mpr fun hRecorded => hNone details ⟨a, hFound, hRecorded⟩

/-- The first claim of a validator at a settled nonce changes tallies and counts only. -/
theorem untallied_after_late
    (hLate : claim.nonce ≤ b.store.claimCursor claim.kind)
    (hResolve : b.registry.resolve orchestrator = some validator)
    (hNone : ∀ details, ¬b.store.Records validator ⟨claim.kind, claim.nonce, details⟩) :
    (b.after (.message (.claim orchestrator claim))).untallied = b.untallied := by
  have hNot (hNext : following (b.store.claimCursor claim.kind) = .ok claim.nonce) : False := by
    have hAbove := following_eq_ok hNext
    have hBelow : claim.nonce.toNat ≤ (b.store.claimCursor claim.kind).toNat := hLate
    omega
  rw [after_claim, left]
  cases hSubmit : submitClaim orchestrator claim b with
  | error refusal b' =>
    rw [submitClaim_eq_error hSubmit]
    rfl
  | ok outcome b' =>
    obtain ⟨m, hJudge, rfl⟩ := submitClaim_eq_ok hSubmit
    obtain ⟨v, power, -, hSigner, hJudged⟩ := judge_eq_ok hJudge
    obtain rfl : validator = v :=
      Option.some.inj (hResolve.symm.trans (signer_eq_ok.mp hSigner).1)
    show m.untallied = b.untallied
    cases hJudged with
    | lateRepeated => rfl
    | lateContradicted _ _ _ hRival =>
      have hRecorded := List.find?_some hRival
      rw [Bool.and_eq_true] at hRecorded
      have hUnknown := not_recorded_of_not_records hNone _ (List.mem_of_find?_eq_some hRival)
      rw [hUnknown] at hRecorded
      cases hRecorded.2
    | late => rfl
    | accepted hNext => exact (hNot hNext).elim
    | finalized hNext => exact (hNot hNext).elim
    | resumed hNext => exact (hNot hNext).elim
    | repeated hNext => exact (hNot hNext).elim
    | contradicted hNext => exact (hNot hNext).elim

end Bridge

end TokenBridge

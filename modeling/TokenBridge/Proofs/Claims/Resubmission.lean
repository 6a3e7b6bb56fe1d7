import TokenBridge.Proofs.Bridge.Parallel
import TokenBridge.Proofs.Claims.LateClaims

/-!
# Claims that are submitted again

An account that submits an answered claim once more says nothing new: its validator is on record for
the claim, and above the cursor it has a vote at the nonce. The one thing that a repetition can do
is to settle the nonce, when the tally of the claim carries and is not settled yet. After a claim
that was counted, or only repeated, the tally does not carry, since that was looked at. A claim that
contradicts its validator's vote is put on record without looking, so that the repetition is the
first to see that the bonded power has fallen.

* `Judged.registry_eq`: claims leave the validators alone;
* `Restated`: a claim that is on record for its validator; `Restated.submit_of_short`,
  `Restated.submit_of_feasible`, `Restated.submit_of_refused`: what becomes of it;
* `restated_of_submit`, `carries_of_submit`: what an answered claim leaves for its repetition;
* `resubmission_run`: both along a run from an empty store;
* `loweredPower_settles`: a repetition that settles its nonce.
-/

namespace TokenBridge.Bridge

variable {b b' : Bridge} {claim : Claim} {orchestrator : AccountAddress}
  {validator : ValidatorAddress} {power : UInt64} {outcome : ClaimOutcome} {a : Attestation}
  {refusal : BridgeError}

/-! ## Claims on record -/

/-- A sound claim, at most one above the cursor, that is on record for the validator of the account
it comes from. -/
structure Restated (b : Bridge) (orchestrator : AccountAddress) (claim : Claim)
    (validator : ValidatorAddress) (power : UInt64) : Prop where
  valid : claim.validate = .ok ()
  signer : b.signer orchestrator = .ok (validator, power)
  reach : claim.nonce.toNat ≤ (b.store.claimCursor claim.kind).toNat + 1
  room : (b.store.claimCursor claim.kind).toNat + 1 < UInt64.size
  known : (b.tally claim).isRecorded validator = true

/-- At or below the cursor a repetition is told as such. -/
theorem Restated.judge_of_late (h : b.Restated orchestrator claim validator power)
    (hAgreed : b.store.Agreed) (hLate : claim.nonce ≤ b.store.claimCursor claim.kind) :
    judge orchestrator claim b = .ok .duplicate b := by
  obtain ⟨expected, hNext⟩ := following_of_lt h.room
  rw [judge_apply h.valid h.signer, check_bind_of_ok hNext, if_pos hLate, recordLate_apply]
  simp only [settled_of_late hAgreed h.valid hLate, Bool.not_true, Bool.false_eq_true, if_false,
    if_pos h.known]
  rfl

/-- Above the cursor a repetition is judged by the tally as it is. -/
theorem Restated.judge_of_above (h : b.Restated orchestrator claim validator power)
    (hFiled : b.store.Filed) (hGrounded : b.store.Grounded)
    (hAbove : b.store.claimCursor claim.kind < claim.nonce) :
    judge orchestrator claim b = (do
      if ← finalizeIfMet (b.tally claim) then return .finalized
      return .duplicate : Handler ClaimOutcome) b := by
  have hDue : claim.nonce.toNat = (b.store.claimCursor claim.kind).toNat + 1 :=
    Nat.le_antisymm h.reach hAbove
  obtain ⟨details, hVoter⟩ := hGrounded validator _ ((isRecorded_tally hFiled).mp h.known) hAbove
  obtain ⟨prior, hPrior⟩ : ∃ prior, b.priorVote? claim validator = some prior := by
    refine Option.ne_none_iff_exists'.mp fun hNew => ?_
    exact not_mem_votersAt hNew details hVoter
  have hNotLate : ¬claim.nonce ≤ b.store.claimCursor claim.kind := Nat.not_le.mpr hAbove
  rw [judge_apply h.valid h.signer, check_bind_of_ok (following_of_toNat hDue), if_neg hNotLate,
    if_pos rfl, vote_apply, hPrior]
  simp only [if_pos (Or.inr h.known)]

/-- **A repetition that settles nothing is counted as such and changes nothing else.** -/
theorem Restated.submit_of_short (h : b.Restated orchestrator claim validator power)
    (hAgreed : b.store.Agreed) (hGrounded : b.store.Grounded)
    (hShort : b.store.claimCursor claim.kind < claim.nonce → b.carries (b.tally claim) = false) :
    submitClaim orchestrator claim b =
      .ok .duplicate { b with counters := b.counters.bump (.submitted .duplicate) } := by
  have hJudge : judge orchestrator claim b = .ok .duplicate b := by
    by_cases hLate : claim.nonce ≤ b.store.claimCursor claim.kind
    · exact h.judge_of_late hAgreed hLate
    · have hAbove := Nat.not_le.mp hLate
      rw [h.judge_of_above hAgreed.filed hGrounded hAbove,
        bind_of_ok (finalizeIfMet_of_short (hShort hAbove))]
      rfl
  rw [submitClaim, hJudge]
  rfl

theorem Restated.submit_of_feasible (h : b.Restated orchestrator claim validator power)
    (hAgreed : b.store.Agreed) (hGrounded : b.store.Grounded)
    (hAbove : b.store.claimCursor claim.kind < claim.nonce)
    (hMet : b.carries (b.tally claim) = true) (hFeasible : b.Feasible (b.tally claim).claim) :
    ∃ b', submitClaim orchestrator claim b = .ok .finalized b' := by
  obtain ⟨m, hFinal⟩ :=
    finalizeIfMet_of_feasible (finalized_tally_of_above hAgreed hAbove) hMet hFeasible
  rw [submitClaim, h.judge_of_above hAgreed.filed hGrounded hAbove, bind_of_ok hFinal]
  exact ⟨_, rfl⟩

theorem Restated.submit_of_refused (h : b.Restated orchestrator claim validator power)
    (hAgreed : b.store.Agreed) (hGrounded : b.store.Grounded)
    (hAbove : b.store.claimCursor claim.kind < claim.nonce)
    (hMet : b.carries (b.tally claim) = true)
    (hRefused : enact (b.tally claim).claim b = .error refusal b) :
    submitClaim orchestrator claim b =
      .error refusal { b with counters := b.counters.bump (.rejected refusal.reason) } := by
  have hFinal := finalizeIfMet_of_refused (finalized_tally_of_above hAgreed hAbove) hMet hRefused
  rw [submitClaim, h.judge_of_above hAgreed.filed hGrounded hAbove, bind_of_error hFinal]
  rfl

/-! ## After an answered claim -/

theorem Judged.registry_eq (h : Judged b validator power claim outcome b') :
    b'.registry = b.registry := by
  rcases h.claims_cases with ⟨-, rfl⟩ | ⟨-, a, -, -, -, hRegistry⟩ |
    ⟨-, -, a, m, -, -, -, hEnacted, rfl⟩
  · rfl
  · exact hRegistry
  · exact hEnacted.registry_eq

theorem tally_record (hFiled : b.store.Filed) (hKey : a.key = (Attestation.start claim).key) :
    (b.record a).tally claim = a := by
  have hStored : (b.record a).store.attestations = b.store.attestations.insert a.key a := rfl
  have hFiled' : (b.record a).store.Filed := Table.KeyedBy.insert hFiled a
  rw [tally_eq hFiled', hStored, hKey, Table.find?_insert, if_pos rfl]
  rfl

/-- A claim that was counted, or only repeated, does not carry as long as its nonce is open. -/
theorem Judged.carries_eq_false (hAgreed : b.store.Agreed)
    (h : Judged b validator power claim outcome b')
    (hNext : following (b.store.claimCursor claim.kind) = .ok claim.nonce)
    (hOpen : outcome ≠ .finalized) (hOther : outcome ≠ .equivocation) :
    b'.carries (b'.tally claim) = false := by
  have hAbove : b.store.claimCursor claim.kind < claim.nonce :=
    Nat.lt_of_succ_le (Nat.le_of_eq (following_eq_ok hNext).symm)
  cases h with
  | accepted _ _ _ _ hShort =>
    have hKey : ((b.tally claim).cast validator power).key = (Attestation.start claim).key :=
      key_tally hAgreed.filed claim
    rw [tally_record hAgreed.filed hKey]
    exact hShort
  | repeated _ _ _ hShort =>
    refine hShort.resolve_left ?_
    rw [finalized_tally_of_above hAgreed hAbove]
    exact Bool.false_ne_true
  | finalized => exact absurd rfl hOpen
  | resumed => exact absurd rfl hOpen
  | contradicted => exact absurd rfl hOther
  | lateContradicted => exact absurd rfl hOther
  | lateRepeated hLate => exact absurd hAbove (Nat.not_lt.mpr hLate)
  | late hLate => exact absurd hAbove (Nat.not_lt.mpr hLate)

/-- An answered claim is on record for its validator. -/
theorem restated_of_submit (hAgreed : b.store.Agreed)
    (h : submitClaim orchestrator claim b = .ok outcome b')
    (hRoom : (b'.store.claimCursor claim.kind).toNat + 1 < UInt64.size) :
    ∃ validator power, b'.Restated orchestrator claim validator power := by
  have hAfter : b.after (.message (.claim orchestrator claim)) = b' := by
    rw [after_claim, left, h]
  have hFiled' : b'.store.Filed :=
    hAfter ▸ filed_step hAgreed.filed (step_after b (.message (.claim orchestrator claim)))
  have hCursor := claimCursor_mono hAgreed.filed (.message (.claim orchestrator claim)) claim.kind
  rw [hAfter] at hCursor
  obtain ⟨m, hJudge, rfl⟩ := submitClaim_eq_ok h
  obtain ⟨validator, power, hValid, hSigner, hJudged⟩ := judge_eq_ok hJudge
  refine ⟨validator, power, hValid, ?_, ?_, hRoom, (isRecorded_tally hFiled').mpr ?_⟩
  · have hActs := signer_eq_ok.mp hSigner
    rw [← hJudged.registry_eq] at hActs
    exact signer_eq_ok.mpr hActs
  · exact Nat.le_trans hJudged.nonce_le (Nat.succ_le_succ hCursor)
  · exact (hJudged.records_iff hAgreed.filed).mpr (Or.inl ⟨rfl, rfl⟩)

/-- Where an answered claim leaves its nonce open and its tally carrying, it was a contradiction. -/
theorem carries_of_submit (hAgreed : b.store.Agreed)
    (h : submitClaim orchestrator claim b = .ok outcome b') (hOther : outcome ≠ .equivocation)
    (hAbove : b'.store.claimCursor claim.kind < claim.nonce) :
    b'.carries (b'.tally claim) = false := by
  have hCursor := claimCursor_submitClaim hAgreed.filed h claim.kind
  obtain ⟨m, hJudge, rfl⟩ := submitClaim_eq_ok h
  obtain ⟨validator, power, -, -, hJudged⟩ := judge_eq_ok hJudge
  rcases hCursor with ⟨-, -, hMoved⟩ | ⟨hOpen, hStays⟩
  · have hBelow : claim.nonce.toNat ≤ (m.store.claimCursor claim.kind).toNat :=
      hMoved ▸ hJudged.nonce_le
    exact absurd hAbove (Nat.not_lt.mpr hBelow)
  · rw [hStays] at hAbove
    have hDue := following_of_toNat (Nat.le_antisymm hJudged.nonce_le hAbove)
    have hShort : m.carries (m.tally claim) = false :=
      hJudged.carries_eq_false hAgreed hDue (fun hFinal => hOpen hFinal rfl) hOther
    exact hShort

/-! ## Runs -/

theorem grounded_run (hFiled : b.store.Filed) (hGrounded : b.store.Grounded)
    (events : List Event) : (b.run events).store.Grounded :=
  (run_induction (P := fun b => b.store.Filed ∧ b.store.Grounded)
    (fun b event h => ⟨filed_step h.1 (step_after b event), grounded_after h.1 h.2 event⟩)
    ⟨hFiled, hGrounded⟩ events).2

theorem grounded_blank (origin : Bridge) : origin.blank.store.Grounded := by
  rintro validator key ⟨a, hFound, -⟩
  cases hFound

/-- **Resubmission.** In a run from an empty store let a claim be answered, and let the cursor of
its kind still be able to move. The same claim from the same account is then a repetition and
changes nothing but the counts, unless the first one was a contradiction at an open nonce whose
tally carries, given what is bonded now. In that case the second one settles the nonce with the
claim that the fingerprint stands for, or is refused because that is a deposit which would take a
balance out of its range. -/
theorem resubmission_run (origin : Bridge) (events : List Event) (orchestrator : AccountAddress)
    (claim : Claim) (outcome : ClaimOutcome) (b : Bridge)
    (hFirst : submitClaim orchestrator claim (origin.blank.run events) = .ok outcome b)
    (hRoom : (b.store.claimCursor claim.kind).toNat + 1 < UInt64.size) :
    let held := (b.tally claim).claim
    let due := outcome = .equivocation ∧ b.store.claimCursor claim.kind < claim.nonce ∧
      origin.params.threshold.isMet
        (b.store.powerAt ⟨claim.kind, claim.nonce, claim.fingerprint⟩)
        b.registry.totalPower.toNat = true
    (¬due → submitClaim orchestrator claim b =
      .ok .duplicate { b with counters := b.counters.bump (.submitted .duplicate) }) ∧
    (due →
      (held.kind = claim.kind ∧ held.nonce = claim.nonce ∧
        held.fingerprint = claim.fingerprint) ∧
      ((∀ account denom,
          (b.ledger.balance account denom).toNat + held.credit account denom < Nat.pow 256 32) →
        ∃ b', submitClaim orchestrator claim b = .ok .finalized b' ∧
          b'.store.claimCursor claim.kind = claim.nonce) ∧
      (∀ account denom,
        Nat.pow 256 32 ≤ (b.ledger.balance account denom).toNat + held.credit account denom →
        claim.kind = .deposit ∧
        submitClaim orchestrator claim b = .error (.invalid (.balanceOverflow denom))
          { b with counters := b.counters.bump (.rejected .invalid) })) := by
  intro held due
  have hAgreed₀ : (origin.blank.run events).store.Agreed := agreed_run Store.agreed_empty events
  -- the answered claim is one more event of the run
  have hRun : origin.blank.run (events ++ [.message (.claim orchestrator claim)]) = b := by
    have hLast : origin.blank.run (events ++ [.message (.claim orchestrator claim)]) =
        (origin.blank.run events).after (.message (.claim orchestrator claim)) :=
      List.foldl_append
    rw [hLast, after_claim, left, hFirst]
  have hAgreed : b.store.Agreed := hRun ▸ agreed_run Store.agreed_empty _
  have hGrounded : b.store.Grounded :=
    hRun ▸ grounded_run (filed_blank origin) (grounded_blank origin) _
  have hGenuine : ∀ a ∈ b.store.attestations.values, a.Genuine :=
    (hRun ▸ orderly_run Store.orderly_empty _ : b.store.Orderly).genuine
  have hKept : b.params = origin.params := hRun ▸ params_run origin.blank _
  have hCarries : b.carries (b.tally claim) = origin.params.threshold.isMet
      (b.store.powerAt ⟨claim.kind, claim.nonce, claim.fingerprint⟩)
      b.registry.totalPower.toNat := by
    rw [carries, power_tally hAgreed.filed, hKept]
    rfl
  obtain ⟨validator, power, hRestated⟩ := restated_of_submit hAgreed₀ hFirst hRoom
  refine ⟨fun hNot => hRestated.submit_of_short hAgreed hGrounded fun hAbove => ?_,
    fun hDue => ?_⟩
  · by_cases hOutcome : outcome = .equivocation
    · refine Bool.eq_false_iff.mpr fun hMet => hNot ⟨hOutcome, hAbove, ?_⟩
      exact hCarries ▸ hMet
    · exact carries_of_submit hAgreed₀ hFirst hOutcome hAbove
  obtain ⟨-, hAbove, hExceeds⟩ := hDue
  have hMet : b.carries (b.tally claim) = true := hCarries.trans hExceeds
  refine ⟨claim_tally hAgreed.filed hGenuine hRestated.valid, fun hRoom => ?_,
    fun account denom hFull => ⟨?_, ?_⟩⟩
  · obtain ⟨b', hFinal⟩ :=
      hRestated.submit_of_feasible hAgreed hGrounded hAbove hMet (feasible_iff.mpr hRoom)
    refine ⟨b', hFinal, ?_⟩
    rcases claimCursor_submitClaim hAgreed.filed hFinal claim.kind with ⟨-, -, hMoved⟩ | ⟨hOther, -⟩
    · exact Nonce.ext_toNat (hMoved.trans (Nat.le_antisymm hAbove hRestated.reach))
    · exact absurd rfl (hOther rfl)
  · exact (claim_tally hAgreed.filed hGenuine hRestated.valid).1.symm.trans
      (kind_of_overflow hFull)
  · exact hRestated.submit_of_refused hAgreed hGrounded hAbove hMet (enact_of_overflow hFull)

/-- Whoever settles a deposit alone and submits it once more is told that it is a repetition. -/
theorem resubmission_of_loneValidator :
    let submit := submitClaim ⟨.ofNat 20 2⟩ (depositOf ⟨1⟩ 600)
    ∃ b, submit ((default : Bridge).blank.run loneValidator) = .ok .finalized b ∧
      submit b = .ok .duplicate { b with counters := b.counters.bump (.submitted .duplicate) } := by
  intro submit
  have hRun : answer submit ((default : Bridge).blank.run loneValidator) = .ok .finalized := by
    decide +kernel
  have hFirst := eq_ok_of_answer hRun
  refine ⟨_, hFirst, (resubmission_run default loneValidator _ _ _ _ hFirst ?_).1 nofun⟩
  have hFiled : ((default : Bridge).blank.run loneValidator).store.Filed :=
    filed_run (filed_blank default) loneValidator
  rcases claimCursor_submitClaim hFiled hFirst .deposit with ⟨-, -, hMoved⟩ | ⟨hOther, -⟩
  · have hOne : ((left submit ((default : Bridge).blank.run loneValidator)).store.claimCursor
        .deposit).toNat = 1 := hMoved
    exact Nat.lt_of_le_of_lt (Nat.succ_le_succ (Nat.le_of_eq hOne)) (by decide)
  · exact absurd rfl (hOther rfl)

/-- A strong validator claims one deposit and the weakest one another, and then a second strong one
leaves. -/
def loweredPower : List Event :=
  [.staking (.bond ⟨.ofNat 20 1⟩ 1 ⟨.ofNat 20 2⟩), .staking (.bond ⟨.ofNat 20 3⟩ 10 ⟨.ofNat 20 4⟩),
    .staking (.bond ⟨.ofNat 20 5⟩ 10 ⟨.ofNat 20 6⟩),
    .message (.claim ⟨.ofNat 20 4⟩ (depositOf ⟨1⟩ 600)),
    .message (.claim ⟨.ofNat 20 2⟩ (depositOf ⟨1⟩ 700)), .staking (.unbond ⟨.ofNat 20 5⟩)]

/-- **A repetition that settles its nonce.** The weakest validator changes over to the deposit of
the strong one, which is a contradiction, and mints that deposit by saying so once more. -/
theorem loweredPower_settles :
    let submit := submitClaim ⟨.ofNat 20 2⟩ (depositOf ⟨1⟩ 600)
    let credit (b : Bridge) :=
      (b.ledger.balance ⟨.ofNat 20 9⟩ (voucherDenom ⟨.ofNat 20 7⟩ "USD")).toNat
    ∃ b b', submit ((default : Bridge).blank.run loweredPower) = .ok .equivocation b ∧
      (b.store.claimCursor .deposit).toNat = 0 ∧ submit b = .ok .finalized b' ∧
      credit b = 0 ∧ credit b' = 600 := by
  intro submit credit
  have hRun : answer submit ((default : Bridge).blank.run loweredPower) = .ok .equivocation ∧
      ((left submit ((default : Bridge).blank.run loweredPower)).store.claimCursor
        .deposit).toNat = 0 ∧
      answer submit (left submit ((default : Bridge).blank.run loweredPower)) = .ok .finalized ∧
      credit (left submit ((default : Bridge).blank.run loweredPower)) = 0 ∧
      credit (left submit (left submit ((default : Bridge).blank.run loweredPower))) = 600 := by
    decide +kernel
  obtain ⟨hFirst, hCursor, hAgain, hBefore, hAfter⟩ := hRun
  exact ⟨_, _, eq_ok_of_answer hFirst, hCursor, eq_ok_of_answer hAgain, hBefore, hAfter⟩

end TokenBridge.Bridge

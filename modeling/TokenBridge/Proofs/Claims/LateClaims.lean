import TokenBridge.Proofs.Claims.Progress

/-!
# Late claims

A claim at or below the cursor cannot change what has been agreed on. It is sorted by what is on
record about its validator at the nonce and goes on record itself, and that is all it does.

* `beyond_of_judge`, `judge_of_beyond`: only a claim beyond the nonce after the cursor is
  out of sequence, as long as each nonce up to the cursor has a final tally;
* `Store.Sorts`: what a late claim comes to; `LateChange`: what it leaves behind;
* `Judged.sorts`, `Judged.lateChange`: both for any store whose tallies are filed;
* `late_run`: along a run from an empty store.
-/

namespace TokenBridge

namespace Store

variable {s : Store} {validator : ValidatorAddress} {claim : Claim} {outcome : ClaimOutcome}

/-- A validator is on record at the nonce of a claim under another fingerprint. -/
def RecordsRival (s : Store) (validator : ValidatorAddress) (claim : Claim) : Prop :=
  ∃ details, details ≠ claim.fingerprint ∧ s.Records validator ⟨claim.kind, claim.nonce, details⟩

/-- What a late claim of a validator comes to. It is a repetition, a contradiction, one more voice
for the final tally or one against it, and the first of these that fits is told. -/
structure Sorts (s : Store) (validator : ValidatorAddress) (claim : Claim)
    (outcome : ClaimOutcome) : Prop where
  duplicate : outcome = .duplicate ↔ s.Records validator (Attestation.start claim).key
  equivocation : outcome = .equivocation ↔
    ¬s.Records validator (Attestation.start claim).key ∧ s.RecordsRival validator claim
  auditRecorded : outcome = .auditRecorded ↔
    ¬s.Records validator (Attestation.start claim).key ∧ ¬s.RecordsRival validator claim ∧
      s.Final (Attestation.start claim).key
  alreadyFinalized : outcome = .alreadyFinalized ↔
    ¬s.Records validator (Attestation.start claim).key ∧ ¬s.RecordsRival validator claim ∧
      ¬s.Final (Attestation.start claim).key

end Store

namespace Bridge

variable {b b' : Bridge} {validator : ValidatorAddress} {power : UInt64} {claim : Claim}
  {outcome : ClaimOutcome} {orchestrator : AccountAddress} {expected got : Nonce}

/-- What a late claim leaves behind: an entry for audit on its tally, unless it is a repetition, and
a report of a contradiction. All else stays, the counts apart. -/
structure LateChange (b : Bridge) (validator : ValidatorAddress) (claim : Claim)
    (outcome : ClaimOutcome) (b' : Bridge) : Prop where
  params : b'.params = b.params
  registry : b'.registry = b.registry
  ledger : b'.ledger = b.ledger
  repeated : outcome = .duplicate → b'.store = b.store
  recorded : outcome ≠ .duplicate →
    let key := (Attestation.start claim).key
    let tally := (b.store.attestations.find? key).getD (.start claim)
    b'.store = { b.store with
      attestations :=
        b.store.attestations.insert key { tally with audit := tally.audit ++ [validator] } }
  silent : outcome ≠ .equivocation → b'.signals = b.signals
  reported : outcome = .equivocation → ∃ first, first ≠ claim.fingerprint ∧
    b.store.Records validator ⟨claim.kind, claim.nonce, first⟩ ∧
    b'.signals = b.signals ++
      [.equivocation validator claim.kind claim.nonce first claim.fingerprint]

/-! ## Claims out of sequence -/

/-- A claim at a settled nonce is not refused. -/
theorem exists_recordLate (hSettled : (b.tallies claim).any Attestation.finalized = true)
    (validator : ValidatorAddress) (expected : Nonce) :
    ∃ outcome b', recordLate validator claim expected b = .ok outcome b' := by
  rw [recordLate_apply]
  simp only [hSettled, Bool.not_true, Bool.false_eq_true, if_false]
  by_cases hKnown : (b.tally claim).isRecorded validator = true
  · simp only [if_pos hKnown]
    exact ⟨_, _, rfl⟩
  · simp only [if_neg hKnown]
    cases b.rival? claim validator with
    | some rival => exact ⟨_, _, rfl⟩
    | none => exact ⟨_, _, rfl⟩

theorem settled_of_late (hAgreed : b.store.Agreed) (hValid : claim.validate = .ok ())
    (hLate : claim.nonce ≤ b.store.claimCursor claim.kind) :
    (b.tallies claim).any Attestation.finalized = true := by
  obtain ⟨details, a, hFound, hFinal⟩ :=
    hAgreed.winner claim.kind claim.nonce (pos_of_validate hValid) hLate
  exact List.any_eq_true.mpr ⟨a, Store.mem_attestationsAt.mpr ⟨details, hFound⟩, hFinal⟩

/-- A claim beyond the nonce after the cursor is refused with the nonce that is due. -/
theorem judge_of_beyond (hValid : claim.validate = .ok ())
    (hSigner : b.signer orchestrator = .ok (validator, power))
    (hNext : following (b.store.claimCursor claim.kind) = .ok expected)
    (hBeyond : expected.toNat < claim.nonce.toNat) :
    judge orchestrator claim b = .error (.outOfSequence expected claim.nonce) b := by
  have hDue := following_eq_ok hNext
  have hAbove : ¬claim.nonce ≤ b.store.claimCursor claim.kind := by
    intro hLate
    have hLate : claim.nonce.toNat ≤ (b.store.claimCursor claim.kind).toNat := hLate
    omega
  have hTurn : claim.nonce ≠ expected := by
    intro hEq
    rw [hEq] at hBeyond
    exact Nat.lt_irrefl _ hBeyond
  rw [judge_apply hValid hSigner, check_bind_of_ok hNext, if_neg hAbove, if_neg hTurn]
  rfl

theorem beyond_of_judge (hAgreed : b.store.Agreed) (hValid : claim.validate = .ok ())
    (hSigner : b.signer orchestrator = .ok (validator, power))
    (h : judge orchestrator claim b = .error (.outOfSequence expected got) b') :
    (b.store.claimCursor claim.kind).toNat + 1 < claim.nonce.toNat := by
  rw [judge_apply hValid hSigner] at h
  rcases bind_eq_error.mp h with hCheck | ⟨due, m, hCheck, hRest⟩
  · have hFatal := (check_eq_error.mp hCheck).1
    rw [following] at hFatal
    split at hFatal <;> cases hFatal
  · obtain ⟨hNext, rfl⟩ := check_eq_ok.mp hCheck
    have hDue := following_eq_ok hNext
    by_cases hLate : claim.nonce ≤ m.store.claimCursor claim.kind
    · obtain ⟨outcome, m', hRecord⟩ :=
        exists_recordLate (settled_of_late hAgreed hValid hLate) validator due
      rw [if_pos hLate, hRecord] at hRest
      cases hRest
    · by_cases hTurn : claim.nonce = due
      · rw [if_neg hLate, if_pos hTurn] at hRest
        have hReason : Reason.outOfSequence = .invalid := refusesWith_vote _ _ _ _ hRest
        exact absurd hReason (by decide)
      · have hNe : claim.nonce.toNat ≠ due.toNat := fun hEq => hTurn (Nonce.ext_toNat hEq)
        have hAbove : ¬claim.nonce.toNat ≤ (m.store.claimCursor claim.kind).toNat := hLate
        omega

/-! ## Claims at or below the cursor -/

theorem rival?_eq_none (hFiled : b.store.Filed) :
    b.rival? claim validator = none ↔ ¬b.store.RecordsRival validator claim := by
  rw [rival?, List.find?_eq_none]
  constructor
  · rintro hNone ⟨details, hOther, a, hFound, hRecorded⟩
    have hDetails : a.details = details := congrArg AttestationKey.details (hFiled _ _ hFound)
    refine hNone a (Store.mem_attestationsAt.mpr ⟨details, hFound⟩) ?_
    simp [hDetails, hOther, hRecorded]
  · intro hAlone a hMem hRival
    rw [Bool.and_eq_true, bne_iff_ne] at hRival
    exact hAlone ⟨a.details, hRival.1, a, find?_of_mem_tallies hFiled hMem, hRival.2⟩

theorem records_of_rival? (hFiled : b.store.Filed) {rival : Attestation}
    (h : b.rival? claim validator = some rival) :
    rival.details ≠ claim.fingerprint ∧
      b.store.Records validator ⟨claim.kind, claim.nonce, rival.details⟩ := by
  have hHit := List.find?_some h
  rw [Bool.and_eq_true, bne_iff_ne] at hHit
  exact ⟨hHit.1, rival, find?_of_mem_tallies hFiled (List.mem_of_find?_eq_some h), hHit.2⟩

/-- A claim at or below the cursor is judged in one of three ways. -/
theorem Judged.late_cases (h : Judged b validator power claim outcome b')
    (hLate : claim.nonce ≤ b.store.claimCursor claim.kind) :
    (outcome = .duplicate ∧ (b.tally claim).isRecorded validator = true ∧ b' = b) ∨
    ((b.tally claim).isRecorded validator = false ∧
      ((∃ rival, outcome = .equivocation ∧ b.rival? claim validator = some rival ∧
        b' = b.flag (b.tally claim) validator rival.details) ∨
      (outcome = (if (b.tally claim).finalized then .auditRecorded else .alreadyFinalized) ∧
        b.rival? claim validator = none ∧
        b' = b.record ((b.tally claim).recordAudit validator)))) := by
  have hNot (hNext : following (b.store.claimCursor claim.kind) = .ok claim.nonce) : False := by
    have hAbove := following_eq_ok hNext
    have hBelow : claim.nonce.toNat ≤ (b.store.claimCursor claim.kind).toNat := hLate
    omega
  cases h with
  | accepted hNext => exact (hNot hNext).elim
  | finalized hNext => exact (hNot hNext).elim
  | resumed hNext => exact (hNot hNext).elim
  | repeated hNext => exact (hNot hNext).elim
  | contradicted hNext => exact (hNot hNext).elim
  | lateRepeated _ _ hKnown => exact Or.inl ⟨rfl, hKnown, rfl⟩
  | lateContradicted _ _ hUnknown hRival =>
    exact Or.inr ⟨hUnknown, Or.inl ⟨_, rfl, hRival, rfl⟩⟩
  | late _ _ hUnknown hAlone => exact Or.inr ⟨hUnknown, Or.inr ⟨rfl, hAlone, rfl⟩⟩

/-- **What a late claim comes to.** -/
theorem Judged.sorts (hFiled : b.store.Filed) (h : Judged b validator power claim outcome b')
    (hLate : claim.nonce ≤ b.store.claimCursor claim.kind) :
    b.store.Sorts validator claim outcome := by
  have hRecords : (b.tally claim).isRecorded validator = true ↔
      b.store.Records validator (Attestation.start claim).key := isRecorded_tally hFiled
  have hFinal := finalized_tally hFiled claim
  rcases h.late_cases hLate with ⟨rfl, hKnown, -⟩ |
    ⟨hUnknown, ⟨rival, rfl, hRival, -⟩ | ⟨rfl, hNone, -⟩⟩
  · have hOld := hRecords.mp hKnown
    constructor <;> simp [hOld]
  · have hNew := hRecords.not.mp (Bool.eq_false_iff.mp hUnknown)
    have hRival : b.store.RecordsRival validator claim := ⟨_, records_of_rival? hFiled hRival⟩
    constructor <;> simp [hNew, hRival]
  · have hNew := hRecords.not.mp (Bool.eq_false_iff.mp hUnknown)
    have hAlone := (rival?_eq_none hFiled).mp hNone
    by_cases hWinner : (b.tally claim).finalized = true
    · rw [if_pos hWinner]
      have hKey := hFinal.mp hWinner
      constructor <;> simp [hNew, hAlone, hKey]
    · rw [if_neg hWinner]
      have hKey := hFinal.not.mp hWinner
      constructor <;> simp [hNew, hAlone, hKey]

/-- A claim for audit is put at the end of the tally that is stored under its key. -/
theorem record_audited (hFiled : b.store.Filed)
    (hUnknown : (b.tally claim).isRecorded validator = false) :
    let key := (Attestation.start claim).key
    let tally := (b.store.attestations.find? key).getD (.start claim)
    b.store.putAttestation ((b.tally claim).recordAudit validator) =
      { b.store with
        attestations :=
          b.store.attestations.insert key { tally with audit := tally.audit ++ [validator] } } := by
  intro key tally
  have hTally : b.tally claim = tally := tally_eq hFiled claim
  have hKey : tally.key = key := hTally ▸ key_tally hFiled claim
  rw [Attestation.recordAudit, hUnknown, if_neg Bool.false_ne_true, Store.putAttestation, hTally,
    ← hKey]
  rfl

/-- **What a late claim leaves behind.** -/
theorem Judged.lateChange (hFiled : b.store.Filed)
    (h : Judged b validator power claim outcome b')
    (hLate : claim.nonce ≤ b.store.claimCursor claim.kind) :
    LateChange b validator claim outcome b' := by
  rcases h.late_cases hLate with ⟨rfl, -, rfl⟩ |
    ⟨hUnknown, ⟨rival, rfl, hRival, rfl⟩ | ⟨rfl, -, rfl⟩⟩
  · exact ⟨rfl, rfl, rfl, fun _ => rfl, fun hOther => absurd rfl hOther, fun _ => rfl, nofun⟩
  · obtain ⟨hOther, hRecords⟩ := records_of_rival? hFiled hRival
    exact ⟨rfl, rfl, rfl, nofun, fun _ => record_audited hFiled hUnknown,
      fun hSilent => absurd rfl hSilent,
      fun _ => ⟨rival.details, hOther, hRecords, signals_flag hFiled _⟩⟩
  · have hKinds : ∀ c : Bool, (if c then ClaimOutcome.auditRecorded else .alreadyFinalized) ≠
        .duplicate ∧ (if c then ClaimOutcome.auditRecorded else .alreadyFinalized) ≠
        .equivocation := by
      decide
    exact ⟨rfl, rfl, rfl, fun hDuplicate => absurd hDuplicate (hKinds _).1,
      fun _ => record_audited hFiled hUnknown, fun _ => rfl,
      fun hEquivocation => absurd hEquivocation (hKinds _).2⟩

/-- A late claim is answered: it is sorted and leaves its change behind. -/
theorem submit_of_late (hAgreed : b.store.Agreed) (hValid : claim.validate = .ok ())
    (hSigner : b.signer orchestrator = .ok (validator, power))
    (hNext : following (b.store.claimCursor claim.kind) = .ok expected)
    (hLate : claim.nonce ≤ b.store.claimCursor claim.kind) :
    ∃ outcome b', submitClaim orchestrator claim b = .ok outcome b' ∧
      b.store.Sorts validator claim outcome ∧ LateChange b validator claim outcome b' := by
  obtain ⟨outcome, m, hRecord⟩ :=
    exists_recordLate (settled_of_late hAgreed hValid hLate) validator expected
  have hJudge : judge orchestrator claim b = .ok outcome m := by
    rw [judge_apply hValid hSigner, check_bind_of_ok hNext, if_pos hLate, hRecord]
  have hJudged : Judged b validator power claim outcome m := judged_of_recordLate hLate hRecord
  have hChange := hJudged.lateChange hAgreed.filed hLate
  refine ⟨outcome, { m with counters := m.counters.bump (.submitted outcome) }, ?_,
    hJudged.sorts hAgreed.filed hLate, ?_⟩
  · rw [submitClaim, hJudge]
    rfl
  · exact ⟨hChange.params, hChange.registry, hChange.ledger, hChange.repeated, hChange.recorded,
      hChange.silent, hChange.reported⟩

/-! ## Runs -/

/-- **Late claims.** Along a run from an empty store let a sound claim come from an account that
acts for a bonded validator with power, while the cursor of its kind can still move. It is out of
sequence just when it is beyond the nonce after the cursor. At or below the cursor it is answered:
it repeats what the validator is on record for, or contradicts it, or else speaks for the final
tally or against it. It leaves at most an entry for audit on the tally of its fingerprint and, if it
contradicts, a report. -/
theorem late_run (origin : Bridge) (events : List Event) (orchestrator : AccountAddress)
    (claim : Claim) (validator : ValidatorAddress) (power : UInt64)
    (hValid : claim.validate = .ok ())
    (hSigner : (origin.blank.run events).signer orchestrator = .ok (validator, power))
    (hRoom : ((origin.blank.run events).store.claimCursor claim.kind).toNat + 1 < UInt64.size) :
    let b := origin.blank.run events
    let cursor := b.store.claimCursor claim.kind
    (cursor.toNat + 1 < claim.nonce.toNat → ∃ expected b', expected.toNat = cursor.toNat + 1 ∧
      submitClaim orchestrator claim b = .error (.outOfSequence expected claim.nonce) b') ∧
    (∀ expected got b',
      submitClaim orchestrator claim b = .error (.outOfSequence expected got) b' →
        cursor.toNat + 1 < claim.nonce.toNat) ∧
    (claim.nonce ≤ cursor → ∃ outcome b', submitClaim orchestrator claim b = .ok outcome b' ∧
      b.store.Sorts validator claim outcome ∧ LateChange b validator claim outcome b') := by
  intro b cursor
  have hAgreed : b.store.Agreed := agreed_run Store.agreed_empty events
  obtain ⟨expected, hNext⟩ := following_of_lt hRoom
  have hDue : expected.toNat = cursor.toNat + 1 := following_eq_ok hNext
  refine ⟨fun hBeyond => ?_, fun expected' got b' hSubmit => ?_,
    submit_of_late hAgreed hValid hSigner hNext⟩
  · have hJudge := judge_of_beyond hValid hSigner hNext (hDue ▸ hBeyond)
    refine ⟨expected, { b with counters := b.counters.bump (.rejected .outOfSequence) }, hDue, ?_⟩
    rw [submitClaim, hJudge]
    rfl
  · rw [submitClaim] at hSubmit
    cases hJudge : judge orchestrator claim b with
    | ok outcome m =>
      rw [hJudge] at hSubmit
      cases hSubmit
    | error refusal m =>
      rw [hJudge] at hSubmit
      cases hSubmit
      exact beyond_of_judge hAgreed hValid hSigner hJudge

/-- The stronger of two validators settles a deposit of six hundred units, and the other one claims
a deposit of seven hundred. -/
def lateRival : List Event :=
  [.staking (.bond ⟨.ofNat 20 1⟩ 5 ⟨.ofNat 20 2⟩), .staking (.bond ⟨.ofNat 20 3⟩ 1 ⟨.ofNat 20 4⟩),
    .message (.claim ⟨.ofNat 20 2⟩ (depositOf ⟨1⟩ 600)),
    .message (.claim ⟨.ofNat 20 4⟩ (depositOf ⟨1⟩ 700))]

/-- The weaker validator changes over to the deposit that was settled, and is reported. -/
theorem late_of_lateRival :
    let b := (default : Bridge).blank.run lateRival
    let claim := depositOf ⟨1⟩ 600
    claim.nonce ≤ b.store.claimCursor .deposit ∧
    ∃ b', submitClaim ⟨.ofNat 20 4⟩ claim b = .ok .equivocation b' ∧ b'.ledger = b.ledger ∧
      ∃ first, first ≠ claim.fingerprint ∧ b'.signals = b.signals ++
        [.equivocation ⟨.ofNat 20 3⟩ .deposit ⟨1⟩ first claim.fingerprint] := by
  intro b claim
  have hRun : b.signer ⟨.ofNat 20 4⟩ = .ok (⟨.ofNat 20 3⟩, 1) ∧
      b.store.claimCursor .deposit = ⟨1⟩ ∧
      (b.tally claim).isRecorded ⟨.ofNat 20 3⟩ = false ∧
      (b.rival? claim ⟨.ofNat 20 3⟩).isSome = true := by
    decide +kernel
  obtain ⟨hSigner, hCursor, hUnknown, hRival⟩ := hRun
  have hAgreed : b.store.Agreed := agreed_run Store.agreed_empty lateRival
  have hFiled := hAgreed.filed
  have hLate : claim.nonce ≤ b.store.claimCursor claim.kind := by
    show claim.nonce ≤ b.store.claimCursor .deposit
    rw [hCursor]
    decide
  have hRoom : (b.store.claimCursor claim.kind).toNat + 1 < UInt64.size := by
    show (b.store.claimCursor .deposit).toNat + 1 < UInt64.size
    rw [hCursor]
    decide
  obtain ⟨-, -, hAnswer⟩ := late_run default lateRival ⟨.ofNat 20 4⟩ claim ⟨.ofNat 20 3⟩ 1
    (by decide +kernel) hSigner hRoom
  obtain ⟨outcome, b', hSubmit, hSorts, hChange⟩ := hAnswer hLate
  obtain ⟨rival, hFound⟩ := Option.isSome_iff_exists.mp hRival
  obtain rfl : outcome = .equivocation := by
    refine hSorts.equivocation.mpr ⟨?_, _, records_of_rival? hFiled hFound⟩
    rw [← isRecorded_tally hFiled]
    exact Bool.eq_false_iff.mp hUnknown
  obtain ⟨first, hOther, -, hSignals⟩ := hChange.reported rfl
  exact ⟨hLate, b', hSubmit, hChange.ledger, first, hOther, hSignals⟩

end Bridge

end TokenBridge

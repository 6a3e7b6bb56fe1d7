import TokenBridge.Bridge.Claims
import TokenBridge.Proofs.Bridge.Handling

/-!
# What becomes of a claim

A claim that is not refused is judged in one of eight ways (`Judged`): at the nonce after the cursor
it adds a vote, adds the vote that settles the nonce, settles the nonce although its validator voted
before, only repeats, or contradicts; at or below the cursor it repeats, contradicts, or is put on
record. `submitClaim_eq_ok` reads this off the handler, and `clean_judge` says that a refused claim
writes nothing.
-/

namespace TokenBridge

namespace Attestation

/-- The tally with one more vote. -/
def cast (a : Attestation) (validator : ValidatorAddress) (power : UInt64) : Attestation :=
  { a with votes := a.votes ++ [⟨validator, power⟩] }

/-- The tally once it is final. -/
def close (a : Attestation) : Attestation :=
  { a with finalized := true }

theorem addVote_eq_ok {a a' : Attestation} {validator : ValidatorAddress} {power : UInt64} :
    a.addVote validator power = .ok a' ↔
      a.finalized = false ∧ a.hasVoted validator = false ∧ a' = a.cast validator power := by
  rw [addVote]
  by_cases hFinal : a.finalized = true
  · rw [if_pos hFinal]
    constructor
    · intro h
      cases h
    · rintro ⟨h, _, _⟩
      rw [hFinal] at h
      cases h
  · rw [if_neg hFinal]
    by_cases hVoted : a.hasVoted validator = true
    · rw [if_pos hVoted]
      constructor
      · intro h
        cases h
      · rintro ⟨_, h, _⟩
        rw [hVoted] at h
        cases h
    · rw [if_neg hVoted]
      rw [Bool.not_eq_true] at hFinal hVoted
      exact ⟨fun h => ⟨hFinal, hVoted, (Except.ok.inj h).symm⟩, fun h => by rw [h.2.2]; rfl⟩

theorem finalize?_eq_some {a a' : Attestation} {total : Nat} {threshold : Threshold} :
    a.finalize? total threshold = some a' ↔
      a.finalized = false ∧ threshold.isMet a.power total = true ∧ a' = a.close := by
  rw [finalize?]
  by_cases h : (!a.finalized && threshold.isMet a.power total) = true
  · rw [if_pos h]
    rw [Bool.and_eq_true, Bool.not_eq_true'] at h
    exact ⟨fun hSome => ⟨h.1, h.2, (Option.some.inj hSome).symm⟩, fun hAll => by rw [hAll.2.2]; rfl⟩
  · rw [if_neg h]
    constructor
    · intro hNone
      cases hNone
    · rintro ⟨hOpen, hMet, _⟩
      rw [hOpen, hMet] at h
      exact absurd rfl h

end Attestation

namespace Bridge

/-! ## The states that a claim leads to -/

/-- The tallies of the kind and the nonce of a claim. -/
def tallies (b : Bridge) (claim : Claim) : List Attestation :=
  b.store.attestationsAt claim.kind claim.nonce

def tally (b : Bridge) (claim : Claim) : Attestation :=
  tallyOf (b.tallies claim) claim

/-- The tally of the kind and the nonce of a claim on which a validator voted. -/
def priorVote? (b : Bridge) (claim : Claim) (validator : ValidatorAddress) : Option Attestation :=
  (b.tallies claim).find? fun a => a.hasVoted validator

/-- A tally of another fingerprint on which a validator is recorded. -/
def rival? (b : Bridge) (claim : Claim) (validator : ValidatorAddress) : Option Attestation :=
  (b.tallies claim).find? fun a => a.details != claim.fingerprint && a.isRecorded validator

/-- Whether the power of a tally exceeds the threshold of what is bonded now. -/
def carries (b : Bridge) (a : Attestation) : Bool :=
  b.params.threshold.isMet a.power b.registry.totalPower.toNat

def record (b : Bridge) (a : Attestation) : Bridge :=
  { b with store := b.store.putAttestation a }

/-- A tally is final and stored, and the cursor stands at its nonce. -/
def settle (b : Bridge) (a : Attestation) : Bridge :=
  { b with
    store := (b.store.putAttestation a.close).setClaimCursor a.claim.kind a.claim.nonce
    counters := b.counters.bump (.finalized a.claim.kind) }

/-- A contradiction is on record and reported. -/
def flag (b : Bridge) (a : Attestation) (validator : ValidatorAddress) (first : Digest) : Bridge :=
  { b.record (a.recordAudit validator) with
    signals := b.signals ++ [.equivocation validator a.claim.kind a.claim.nonce first a.details]
    counters := b.counters.bump .equivocation }

/-- A claim has had its effect. -/
inductive Enacted (b : Bridge) : Claim → Bridge → Prop
  | credited {nonce : Nonce} {token : Token} {sender : EthAddress} {receiver : AccountAddress}
      {ledger : Ledger}
      (hMint : b.ledger.mint receiver token.amount (voucherDenom token.contract token.symbol) =
        .ok ledger) :
      Enacted b (.deposit nonce token sender receiver) { b with ledger }
  | batch {nonce batchNonce : Nonce} {contract : EthAddress} :
      Enacted b (.batchExecuted nonce batchNonce contract)
        { b with store := b.store.executeBatch contract batchNonce }
  | valset {nonce valsetNonce : Nonce} :
      Enacted b (.valsetExecuted nonce valsetNonce)
        { b with store := b.store.executeValset valsetNonce }

/-- What the claim of a validator with some power comes to, and the state after it. -/
inductive Judged (b : Bridge) (validator : ValidatorAddress) (power : UInt64) (claim : Claim) :
    ClaimOutcome → Bridge → Prop
  | accepted (hNext : following (b.store.claimCursor claim.kind) = .ok claim.nonce)
      (hNew : b.priorVote? claim validator = none)
      (hFresh : (b.tally claim).hasVoted validator = false)
      (hOpen : (b.tally claim).finalized = false)
      (hShort : b.carries ((b.tally claim).cast validator power) = false) :
      Judged b validator power claim .accepted (b.record ((b.tally claim).cast validator power))
  | finalized {m : Bridge} (hNext : following (b.store.claimCursor claim.kind) = .ok claim.nonce)
      (hNew : b.priorVote? claim validator = none)
      (hFresh : (b.tally claim).hasVoted validator = false)
      (hOpen : (b.tally claim).finalized = false)
      (hMet : b.carries ((b.tally claim).cast validator power) = true)
      (hEnacted : Enacted b (b.tally claim).claim m) :
      Judged b validator power claim .finalized (m.settle ((b.tally claim).cast validator power))
  | resumed {m : Bridge} {prior : Attestation}
      (hNext : following (b.store.claimCursor claim.kind) = .ok claim.nonce)
      (hPrior : b.priorVote? claim validator = some prior)
      (hSame : prior.details = claim.fingerprint ∨ (b.tally claim).isRecorded validator = true)
      (hOpen : (b.tally claim).finalized = false)
      (hMet : b.carries (b.tally claim) = true)
      (hEnacted : Enacted b (b.tally claim).claim m) :
      Judged b validator power claim .finalized (m.settle (b.tally claim))
  | repeated {prior : Attestation}
      (hNext : following (b.store.claimCursor claim.kind) = .ok claim.nonce)
      (hPrior : b.priorVote? claim validator = some prior)
      (hSame : prior.details = claim.fingerprint ∨ (b.tally claim).isRecorded validator = true)
      (hShort : (b.tally claim).finalized = true ∨ b.carries (b.tally claim) = false) :
      Judged b validator power claim .duplicate b
  | contradicted {prior : Attestation}
      (hNext : following (b.store.claimCursor claim.kind) = .ok claim.nonce)
      (hPrior : b.priorVote? claim validator = some prior)
      (hOther : prior.details ≠ claim.fingerprint)
      (hUnknown : (b.tally claim).isRecorded validator = false) :
      Judged b validator power claim .equivocation (b.flag (b.tally claim) validator prior.details)
  | lateRepeated (hLate : claim.nonce ≤ b.store.claimCursor claim.kind)
      (hSettled : (b.tallies claim).any Attestation.finalized = true)
      (hKnown : (b.tally claim).isRecorded validator = true) :
      Judged b validator power claim .duplicate b
  | lateContradicted {rival : Attestation} (hLate : claim.nonce ≤ b.store.claimCursor claim.kind)
      (hSettled : (b.tallies claim).any Attestation.finalized = true)
      (hUnknown : (b.tally claim).isRecorded validator = false)
      (hRival : b.rival? claim validator = some rival) :
      Judged b validator power claim .equivocation (b.flag (b.tally claim) validator rival.details)
  | late (hLate : claim.nonce ≤ b.store.claimCursor claim.kind)
      (hSettled : (b.tallies claim).any Attestation.finalized = true)
      (hUnknown : (b.tally claim).isRecorded validator = false)
      (hAlone : b.rival? claim validator = none) :
      Judged b validator power claim
        (if (b.tally claim).finalized then .auditRecorded else .alreadyFinalized)
        (b.record ((b.tally claim).recordAudit validator))

variable {b b' : Bridge} {validator : ValidatorAddress} {power : UInt64} {claim : Claim}
  {a : Attestation} {outcome : ClaimOutcome}

/-! ## Effects -/

theorem enacted_of_ok {u : Unit} (h : enact claim b = .ok u b') : Enacted b claim b' := by
  cases claim with
  | deposit nonce token sender receiver =>
    rw [enact, get_bind_apply] at h
    obtain ⟨ledger, hMint, hSet⟩ := check_bind_eq_ok.mp h
    rw [set_eq_ok.mp hSet]
    exact .credited hMint
  | batchExecuted nonce batchNonce contract =>
    rw [enact, write_eq_ok] at h
    rw [h]
    exact .batch
  | valsetExecuted nonce valsetNonce =>
    rw [enact, write_eq_ok] at h
    rw [h]
    exact .valset

theorem clean_enact (claim : Claim) : Clean (enact claim) := by
  cases claim with
  | deposit nonce token sender receiver =>
    exact Clean.get_bind fun b => Clean.bind (reads_check _) fun _ => (sure_set _).clean
  | batchExecuted nonce batchNonce contract =>
    rw [enact]
    exact (sure_write _).clean
  | valsetExecuted nonce valsetNonce =>
    rw [enact]
    exact (sure_write _).clean

theorem failsWith_mint (ledger : Ledger) (account : AccountAddress) (amount : Amount)
    (denom : String) : FailsWith (·.reason = .invalid) (ledger.mint account amount denom) := by
  rw [Ledger.mint]
  cases (ledger.balance account denom).add? amount with
  | some sum => exact failsWith_ok _
  | none => exact failsWith_error rfl

theorem refusesWith_enact (claim : Claim) (b : Bridge) :
    RefusesWith (·.reason = .invalid) (enact claim) b := by
  cases claim with
  | deposit nonce token sender receiver =>
    exact .get_bind (.check_bind (failsWith_mint _ _ _ _) fun _ _ => (sure_set _).refusesWith)
  | batchExecuted nonce batchNonce contract =>
    rw [enact]
    exact (sure_write _).refusesWith
  | valsetExecuted nonce valsetNonce =>
    rw [enact]
    exact (sure_write _).refusesWith

theorem finalizeIfMet_eq_true (h : finalizeIfMet a b = .ok true b') :
    a.finalized = false ∧ b.carries a = true ∧ ∃ m, Enacted b a.claim m ∧ b' = m.settle a := by
  rw [finalizeIfMet, get_bind_apply] at h
  cases hFinal : a.finalize? b.registry.totalPower.toNat b.params.threshold with
  | none =>
    rw [hFinal] at h
    cases h
  | some done =>
    rw [hFinal] at h
    obtain ⟨hOpen, hMet, rfl⟩ := Attestation.finalize?_eq_some.mp hFinal
    obtain ⟨_, m, hEnact, h⟩ := bind_eq_ok.mp h
    obtain ⟨_, m₁, hWrite, h⟩ := bind_eq_ok.mp h
    obtain ⟨_, m₂, hCount, h⟩ := bind_eq_ok.mp h
    rw [write_eq_ok] at hWrite
    rw [count_eq_ok, hWrite] at hCount
    rw [pure_eq_ok, hCount] at h
    exact ⟨hOpen, hMet, m, enacted_of_ok hEnact, h.2⟩

theorem finalizeIfMet_eq_false (h : finalizeIfMet a b = .ok false b') :
    (a.finalized = true ∨ b.carries a = false) ∧ b' = b := by
  rw [finalizeIfMet, get_bind_apply] at h
  cases hFinal : a.finalize? b.registry.totalPower.toNat b.params.threshold with
  | none =>
    rw [hFinal] at h
    refine ⟨?_, (pure_eq_ok.mp h).2⟩
    by_cases hOpen : a.finalized = true
    · exact Or.inl hOpen
    · refine Or.inr (Bool.eq_false_iff.mpr fun hMet => ?_)
      have hSome := Attestation.finalize?_eq_some.mpr ⟨Bool.eq_false_iff.mpr hOpen, hMet, rfl⟩
      rw [hFinal] at hSome
      cases hSome
  | some done =>
    rw [hFinal] at h
    obtain ⟨_, _, _, h⟩ := bind_eq_ok.mp h
    obtain ⟨_, _, _, h⟩ := bind_eq_ok.mp h
    obtain ⟨_, _, _, h⟩ := bind_eq_ok.mp h
    cases h

theorem clean_finalizeIfMet (a : Attestation) : Clean (finalizeIfMet a) := by
  refine Clean.get_bind fun b => ?_
  cases a.finalize? b.registry.totalPower.toNat b.params.threshold with
  | none => exact (sure_pure _).clean
  | some done =>
    exact Clean.bind_sure (clean_enact _) fun _ =>
      (sure_write _).bind fun _ => (sure_count _).bind fun _ => sure_pure _

theorem refusesWith_finalizeIfMet (a : Attestation) (b : Bridge) :
    RefusesWith (·.reason = .invalid) (finalizeIfMet a) b := by
  refine .get_bind ?_
  cases a.finalize? b.registry.totalPower.toNat b.params.threshold with
  | none => exact (sure_pure _).refusesWith
  | some done =>
    exact .bind_sure (refusesWith_enact _ _) fun _ =>
      (sure_write _).bind fun _ => (sure_count _).bind fun _ => sure_pure _

theorem flagEquivocation_eq_ok {first : Digest}
    (h : flagEquivocation a validator first b = .ok outcome b') :
    outcome = .equivocation ∧ b' = b.flag a validator first := by
  cases h
  exact ⟨rfl, rfl⟩

theorem sure_flagEquivocation (a : Attestation) (validator : ValidatorAddress) (first : Digest) :
    Sure (flagEquivocation a validator first) :=
  (sure_write _).bind fun _ => (sure_report _).bind fun _ => (sure_count _).bind fun _ =>
    sure_pure _

/-! ## Claims at the nonce after the cursor -/

theorem vote_apply (validator : ValidatorAddress) (power : UInt64) (claim : Claim) (b : Bridge) :
    vote validator power claim b =
      (match b.priorVote? claim validator with
      | some prior =>
        if prior.details = claim.fingerprint ∨ (b.tally claim).isRecorded validator = true then do
          if ← finalizeIfMet (b.tally claim) then return .finalized
          return .duplicate
        else flagEquivocation (b.tally claim) validator prior.details
      | none => do
        let tally ← check (((b.tally claim).addVote validator power).mapError .invalid)
        if ← finalizeIfMet tally then return .finalized
        write fun s => s.putAttestation tally
        return .accepted : Handler ClaimOutcome) b := rfl

theorem judged_of_vote (hNext : following (b.store.claimCursor claim.kind) = .ok claim.nonce)
    (h : vote validator power claim b = .ok outcome b') :
    Judged b validator power claim outcome b' := by
  rw [vote_apply] at h
  cases hPrior : b.priorVote? claim validator with
  | some prior =>
    rw [hPrior] at h
    by_cases hSame : prior.details = claim.fingerprint ∨ (b.tally claim).isRecorded validator = true
    · simp only [if_pos hSame] at h
      obtain ⟨done, m, hFinal, hReply⟩ := bind_eq_ok.mp h
      cases done with
      | true =>
        obtain ⟨hOpen, hMet, m', hEnacted, rfl⟩ := finalizeIfMet_eq_true hFinal
        obtain ⟨rfl, rfl⟩ := pure_eq_ok.mp hReply
        exact .resumed hNext hPrior hSame hOpen hMet hEnacted
      | false =>
        obtain ⟨hShort, rfl⟩ := finalizeIfMet_eq_false hFinal
        obtain ⟨rfl, rfl⟩ := pure_eq_ok.mp hReply
        exact .repeated hNext hPrior hSame hShort
    · simp only [if_neg hSame] at h
      obtain ⟨rfl, rfl⟩ := flagEquivocation_eq_ok h
      obtain ⟨hOther, hUnknown⟩ := not_or.mp hSame
      exact .contradicted hNext hPrior hOther (Bool.eq_false_iff.mpr hUnknown)
  | none =>
    rw [hPrior] at h
    obtain ⟨cast, hAdd, hRest⟩ := check_bind_eq_ok.mp h
    obtain ⟨hOpen, hFresh, rfl⟩ := Attestation.addVote_eq_ok.mp (mapError_eq_ok.mp hAdd)
    obtain ⟨done, m, hFinal, hReply⟩ := bind_eq_ok.mp hRest
    cases done with
    | true =>
      obtain ⟨_, hMet, m', hEnacted, rfl⟩ := finalizeIfMet_eq_true hFinal
      obtain ⟨rfl, rfl⟩ := pure_eq_ok.mp hReply
      exact .finalized hNext hPrior hFresh hOpen hMet hEnacted
    | false =>
      obtain ⟨hShort, rfl⟩ := finalizeIfMet_eq_false hFinal
      obtain ⟨_, m, hWrite, hReply⟩ := bind_eq_ok.mp hReply
      rw [write_eq_ok] at hWrite
      obtain ⟨rfl, rfl⟩ := pure_eq_ok.mp hReply
      rw [hWrite]
      refine .accepted hNext hPrior hFresh hOpen (hShort.resolve_left fun hFinal => ?_)
      exact Bool.eq_false_iff.mp hOpen hFinal

theorem clean_vote (validator : ValidatorAddress) (power : UInt64) (claim : Claim) :
    Clean (vote validator power claim) := by
  intro b refusal b' h
  rw [vote_apply] at h
  revert h
  cases b.priorVote? claim validator with
  | some prior =>
    refine @Clean.ite _ _ _ _ _ (Clean.bind_sure (clean_finalizeIfMet _) fun done => ?_)
      (sure_flagEquivocation _ _ _).clean b refusal b'
    cases done with
    | true => exact sure_pure _
    | false => exact sure_pure _
  | none =>
    refine @Clean.bind _ _ _ _ (reads_check _) (fun _ =>
      Clean.bind_sure (clean_finalizeIfMet _) fun done => ?_) b refusal b'
    cases done with
    | true => exact sure_pure _
    | false => exact (sure_write _).bind fun _ => sure_pure _

/-- A claim at the nonce after the cursor is refused for its content or for its effect only. -/
theorem refusesWith_vote (validator : ValidatorAddress) (power : UInt64) (claim : Claim)
    (b : Bridge) : RefusesWith (·.reason = .invalid) (vote validator power claim) b := by
  refine .congr (vote_apply validator power claim b) ?_
  cases b.priorVote? claim validator with
  | some prior =>
    refine .ite (fun _ => ?_) fun _ => (sure_flagEquivocation _ _ _).refusesWith
    refine .bind_sure (refusesWith_finalizeIfMet _ _) fun done => ?_
    cases done with
    | true => exact sure_pure _
    | false => exact sure_pure _
  | none =>
    refine .check_bind (.mapError fun _ => rfl) fun cast _ => ?_
    refine .bind_sure (refusesWith_finalizeIfMet _ _) fun done => ?_
    cases done with
    | true => exact sure_pure _
    | false => exact (sure_write _).bind fun _ => sure_pure _

/-! ## Claims at or below the cursor -/

theorem recordLate_apply (validator : ValidatorAddress) (claim : Claim) (expected : Nonce)
    (b : Bridge) : recordLate validator claim expected b =
      (if (!(b.tallies claim).any Attestation.finalized) = true then
        throw (.outOfSequence expected claim.nonce)
      else if (b.tally claim).isRecorded validator = true then return .duplicate
      else match b.rival? claim validator with
      | some rival => flagEquivocation (b.tally claim) validator rival.details
      | none => do
        write fun s => s.putAttestation ((b.tally claim).recordAudit validator)
        return if (b.tally claim).finalized then .auditRecorded else .alreadyFinalized :
          Handler ClaimOutcome) b := by
  rw [recordLate, get_bind_apply]
  by_cases hSettled : (b.tallies claim).any Attestation.finalized = true
  · simp only [tallies] at hSettled
    simp only [tallies, hSettled]
    rfl
  · simp only [tallies] at hSettled
    simp only [tallies, hSettled]
    rfl

theorem judged_of_recordLate {expected : Nonce}
    (hLate : claim.nonce ≤ b.store.claimCursor claim.kind)
    (h : recordLate validator claim expected b = .ok outcome b') :
    Judged b validator power claim outcome b' := by
  rw [recordLate_apply] at h
  by_cases hSettled : (b.tallies claim).any Attestation.finalized = true
  · simp only [hSettled, Bool.not_true, Bool.false_eq_true, if_false] at h
    by_cases hKnown : (b.tally claim).isRecorded validator = true
    · simp only [if_pos hKnown] at h
      obtain ⟨rfl, rfl⟩ := pure_eq_ok.mp h
      exact .lateRepeated hLate hSettled hKnown
    · simp only [if_neg hKnown] at h
      have hUnknown := Bool.eq_false_iff.mpr hKnown
      cases hRival : b.rival? claim validator with
      | some rival =>
        rw [hRival] at h
        obtain ⟨rfl, rfl⟩ := flagEquivocation_eq_ok h
        exact .lateContradicted hLate hSettled hUnknown hRival
      | none =>
        rw [hRival] at h
        obtain ⟨_, m, hWrite, h⟩ := bind_eq_ok.mp h
        rw [write_eq_ok] at hWrite
        obtain ⟨rfl, rfl⟩ := pure_eq_ok.mp h
        rw [hWrite]
        exact .late hLate hSettled hUnknown hRival
  · simp only [hSettled, Bool.not_false, if_true] at h
    exact absurd h throw_ne_ok

theorem clean_recordLate (validator : ValidatorAddress) (claim : Claim) (expected : Nonce) :
    Clean (recordLate validator claim expected) := by
  intro b refusal b' h
  rw [recordLate_apply] at h
  revert h
  refine @Clean.ite _ _ _ _ _ (clean_throw _) (Clean.ite (sure_pure _).clean ?_) b refusal b'
  cases b.rival? claim validator with
  | some rival => exact (sure_flagEquivocation _ _ _).clean
  | none => exact ((sure_write _).bind fun _ => sure_pure _).clean

theorem refusesWith_recordLate (validator : ValidatorAddress) (claim : Claim) (expected : Nonce)
    (b : Bridge) :
    RefusesWith (·.reason = .outOfSequence) (recordLate validator claim expected) b := by
  refine .congr (recordLate_apply validator claim expected b) ?_
  refine .ite (fun _ => refusesWith_throw rfl) fun _ => ?_
  refine .ite (fun _ => (sure_pure _).refusesWith) fun _ => ?_
  cases b.rival? claim validator with
  | some rival => exact (sure_flagEquivocation _ _ _).refusesWith
  | none => exact ((sure_write _).bind fun _ => sure_pure _).refusesWith

/-! ## Claims -/

variable {orchestrator : AccountAddress}

/-- **What a judged claim comes to.** The claim is sound, an account acts for a bonded validator
with power, and the claim is judged as that validator's. -/
theorem judge_eq_ok (h : judge orchestrator claim b = .ok outcome b') :
    ∃ validator power, claim.validate = .ok () ∧ b.signer orchestrator = .ok (validator, power) ∧
      Judged b validator power claim outcome b' := by
  rw [judge, get_bind_apply] at h
  obtain ⟨_, hValid, h⟩ := check_bind_eq_ok.mp h
  obtain ⟨⟨validator, power⟩, hSigner, h⟩ := check_bind_eq_ok.mp h
  obtain ⟨expected, hNext, h⟩ := check_bind_eq_ok.mp h
  refine ⟨validator, power, mapError_eq_ok.mp hValid, hSigner, ?_⟩
  by_cases hLate : claim.nonce ≤ b.store.claimCursor claim.kind
  · rw [if_pos hLate] at h
    exact judged_of_recordLate hLate h
  · rw [if_neg hLate] at h
    by_cases hTurn : claim.nonce = expected
    · rw [if_pos hTurn] at h
      exact judged_of_vote (hTurn ▸ hNext) h
    · rw [if_neg hTurn] at h
      exact absurd h throw_ne_ok

theorem clean_judge (orchestrator : AccountAddress) (claim : Claim) :
    Clean (judge orchestrator claim) := by
  refine Clean.get_bind fun b => Clean.bind (reads_check _) fun _ =>
    Clean.bind (reads_check _) fun signer => Clean.bind (reads_check _) fun expected => ?_
  exact Clean.ite (clean_recordLate _ _ _) (Clean.ite (clean_vote _ _ _) (clean_throw _))

theorem submitClaim_eq_ok (h : submitClaim orchestrator claim b = .ok outcome b') :
    ∃ m, judge orchestrator claim b = .ok outcome m ∧
      b' = { m with counters := m.counters.bump (.submitted outcome) } := by
  rw [submitClaim] at h
  cases hJudge : judge orchestrator claim b with
  | ok judged m =>
    rw [hJudge] at h
    cases h
    exact ⟨m, rfl, rfl⟩
  | error refusal m =>
    rw [hJudge] at h
    cases h

/-- A refused claim is counted and changes nothing else. -/
theorem submitClaim_eq_error {refusal : BridgeError}
    (h : submitClaim orchestrator claim b = .error refusal b') :
    b' = { b with counters := b.counters.bump (.rejected refusal.reason) } := by
  rw [submitClaim] at h
  cases hJudge : judge orchestrator claim b with
  | ok judged m =>
    rw [hJudge] at h
    cases h
  | error refusal m =>
    rw [hJudge] at h
    cases h
    rw [clean_judge orchestrator claim hJudge]

end Bridge

end TokenBridge

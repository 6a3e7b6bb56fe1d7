import TokenBridge.Proofs.Bridge.Refusals
import TokenBridge.Proofs.Claims.Ballots
import TokenBridge.Proofs.Genesis.Restart
import TokenBridge.Proofs.Ledger.Solvency

/-!
# Progress

The vote that completes a quorum settles the nonce, unless the effect of the claim is refused. Of
all effects only a credit can be: that which would take a balance out of its range.

* `feasible_iff`: the effect of a claim is refused where a balance would leave its range, and only
  there; `enact_of_overflow`: how it is refused;
* `FirstVote`: a claim that counts as a vote; `FirstVote.submit_of_feasible`,
  `FirstVote.submit_of_refused`: what becomes of it where the quorum is complete;
* `progress_run`: both along a run from an empty store;
* `fullAccount_bars`: a quorum that settles nothing.
-/

namespace TokenBridge

/-! ## Credits -/

namespace Ledger

variable {l : Ledger} {holder : AccountAddress} {amount : Amount} {unit : String}

theorem mint_of_lt (h : (l.balance holder unit).toNat + amount.toNat < Nat.pow 256 32) :
    ∃ l', l.mint holder amount unit = .ok l' := by
  have hSum : (l.balance holder unit).add? amount = some ⟨_, h⟩ := dif_pos h
  rw [mint, hSum]
  exact ⟨_, rfl⟩

theorem mint_of_le (h : Nat.pow 256 32 ≤ (l.balance holder unit).toNat + amount.toNat) :
    l.mint holder amount unit = .error (.invalid (.balanceOverflow unit)) := by
  have hNone : (l.balance holder unit).add? amount = none := dif_neg (Nat.not_lt.mpr h)
  rw [mint, hNone]

end Ledger

theorem Claim.credit_deposit (nonce : Nonce) (token : Token) (sender : EthAddress)
    (receiver : AccountAddress) :
    (Claim.deposit nonce token sender receiver).credit receiver
      (voucherDenom token.contract token.symbol) = token.amount.toNat :=
  if_pos ⟨rfl, rfl⟩

theorem Claim.credit_eq_zero {claim : Claim} (hOther : claim.kind ≠ .deposit)
    (account : AccountAddress) (denom : String) : claim.credit account denom = 0 := by
  cases claim with
  | deposit => exact absurd rfl hOther
  | batchExecuted => rfl
  | valsetExecuted => rfl

namespace Bridge

variable {b b' : Bridge} {claim : Claim} {orchestrator : AccountAddress}
  {validator : ValidatorAddress} {power : UInt64} {refusal : BridgeError}

/-- An effect takes place as long as all balances stay in range. -/
theorem feasible_iff :
    b.Feasible claim ↔ ∀ account denom,
      (b.ledger.balance account denom).toNat + claim.credit account denom < Nat.pow 256 32 := by
  constructor
  · rintro ⟨m, hEnacted⟩ account denom
    rw [← hEnacted.balance_eq account denom]
    exact (m.ledger.balance account denom).isLt
  · intro hRoom
    cases claim with
    | deposit nonce token sender receiver =>
      have hReceiver := hRoom receiver (voucherDenom token.contract token.symbol)
      rw [Claim.credit_deposit] at hReceiver
      obtain ⟨ledger, hMint⟩ := Ledger.mint_of_lt hReceiver
      exact ⟨_, .credited hMint⟩
    | batchExecuted => exact ⟨_, .batch⟩
    | valsetExecuted => exact ⟨_, .valset⟩

/-- The refusal names the denomination whose balance would leave the range. -/
theorem enact_of_overflow {account : AccountAddress} {denom : String}
    (h : Nat.pow 256 32 ≤ (b.ledger.balance account denom).toNat + claim.credit account denom) :
    enact claim b = .error (.invalid (.balanceOverflow denom)) b := by
  have hIn : (b.ledger.balance account denom).toNat < Nat.pow 256 32 :=
    (b.ledger.balance account denom).isLt
  cases claim with
  | deposit nonce token sender receiver =>
    by_cases hSame : receiver = account ∧ voucherDenom token.contract token.symbol = denom
    · obtain ⟨rfl, rfl⟩ := hSame
      rw [Claim.credit_deposit] at h
      rw [enact, get_bind_apply]
      exact bind_of_error (check_eq_error.mpr ⟨Ledger.mint_of_le h, rfl⟩)
    · simp only [Claim.credit, if_neg hSame] at h
      omega
  | batchExecuted =>
    simp only [Claim.credit] at h
    omega
  | valsetExecuted =>
    simp only [Claim.credit] at h
    omega

/-- Only a deposit can take a balance out of its range. -/
theorem kind_of_overflow {account : AccountAddress} {denom : String}
    (h : Nat.pow 256 32 ≤ (b.ledger.balance account denom).toNat + claim.credit account denom) :
    claim.kind = .deposit := by
  by_contra hOther
  rw [Claim.credit_eq_zero hOther] at h
  exact absurd (b.ledger.balance account denom).isLt (Nat.not_lt.mpr h)

/-! ## Quorums -/

theorem finalizeIfMet_of_feasible {a : Attestation} (hOpen : a.finalized = false)
    (hMet : b.carries a = true) (hFeasible : b.Feasible a.claim) :
    ∃ m, finalizeIfMet a b = .ok true m := by
  obtain ⟨m, hEnacted⟩ := hFeasible
  have hFinal := finalizeIfMet_of_met hOpen hMet
  rw [bind_of_ok (enact_of_enacted hEnacted)] at hFinal
  exact ⟨_, hFinal⟩

theorem finalizeIfMet_of_refused {a : Attestation} (hOpen : a.finalized = false)
    (hMet : b.carries a = true) (hRefused : enact a.claim b = .error refusal b) :
    finalizeIfMet a b = .error refusal b :=
  (finalizeIfMet_of_met hOpen hMet).trans (bind_of_error hRefused)

/-- What a claim would settle is a claim of the same kind, nonce and fingerprint. -/
theorem claim_tally (hFiled : b.store.Filed)
    (hGenuine : ∀ a ∈ b.store.attestations.values, a.Genuine) (hValid : claim.validate = .ok ()) :
    (b.tally claim).claim.kind = claim.kind ∧ (b.tally claim).claim.nonce = claim.nonce ∧
      (b.tally claim).claim.fingerprint = claim.fingerprint := by
  have hKey : (b.tally claim).key = (Attestation.start claim).key := key_tally hFiled claim
  have hDetails : (b.tally claim).details = claim.fingerprint :=
    congrArg AttestationKey.details hKey
  exact ⟨congrArg AttestationKey.kind hKey, congrArg AttestationKey.nonce hKey,
    (genuine_tally hFiled hGenuine hValid).2.symm.trans hDetails⟩

/-! ## The vote that completes a quorum -/

/-- A sound claim at the nonce after the cursor, from an account that acts for a bonded validator
with power that has no vote at the nonce. -/
structure FirstVote (b : Bridge) (orchestrator : AccountAddress) (claim : Claim)
    (validator : ValidatorAddress) (power : UInt64) : Prop where
  valid : claim.validate = .ok ()
  signer : b.signer orchestrator = .ok (validator, power)
  next : claim.nonce.toNat = (b.store.claimCursor claim.kind).toNat + 1
  fresh : ∀ details, validator ∉ b.store.votersAt ⟨claim.kind, claim.nonce, details⟩

theorem FirstVote.finalized_tally (h : b.FirstVote orchestrator claim validator power)
    (hAgreed : b.store.Agreed) : (b.tally claim).finalized = false :=
  finalized_tally_of_above hAgreed (Nat.lt_of_lt_of_eq (Nat.lt_succ_self _) h.next.symm)

theorem FirstVote.priorVote?_eq_none (h : b.FirstVote orchestrator claim validator power) :
    b.priorVote? claim validator = none := by
  refine List.find?_eq_none.mpr fun a hMem hVoted => ?_
  obtain ⟨details, hFound⟩ := Store.mem_attestationsAt.mp hMem
  refine h.fresh details ?_
  rw [Store.votersAt, Store.votesAt_of_find? hFound]
  exact Attestation.hasVoted_iff.mp hVoted

theorem FirstVote.hasVoted_tally (h : b.FirstVote orchestrator claim validator power)
    (hFiled : b.store.Filed) : (b.tally claim).hasVoted validator = false := by
  refine Bool.eq_false_iff.mpr fun hVoted => h.fresh claim.fingerprint ?_
  have hMem := Attestation.hasVoted_iff.mp hVoted
  rwa [votes_tally hFiled] at hMem

theorem FirstVote.judge_eq (h : b.FirstVote orchestrator claim validator power)
    (hAgreed : b.store.Agreed) :
    judge orchestrator claim b = (do
      if ← finalizeIfMet ((b.tally claim).cast validator power) then return .finalized
      write fun s => s.putAttestation ((b.tally claim).cast validator power)
      return .accepted : Handler ClaimOutcome) b :=
  judge_of_first h.valid h.signer (following_of_toNat h.next) h.priorVote?_eq_none
    (h.hasVoted_tally hAgreed.filed) (h.finalized_tally hAgreed)

theorem FirstVote.submit_of_feasible (h : b.FirstVote orchestrator claim validator power)
    (hAgreed : b.store.Agreed) (hMet : b.carries ((b.tally claim).cast validator power) = true)
    (hFeasible : b.Feasible (b.tally claim).claim) :
    ∃ b', submitClaim orchestrator claim b = .ok .finalized b' := by
  have hOpen : ((b.tally claim).cast validator power).finalized = false :=
    h.finalized_tally hAgreed
  obtain ⟨m, hFinal⟩ := finalizeIfMet_of_feasible hOpen hMet hFeasible
  rw [submitClaim, h.judge_eq hAgreed, bind_of_ok hFinal]
  exact ⟨_, rfl⟩

theorem FirstVote.submit_of_refused (h : b.FirstVote orchestrator claim validator power)
    (hAgreed : b.store.Agreed) (hMet : b.carries ((b.tally claim).cast validator power) = true)
    (hRefused : enact (b.tally claim).claim b = .error refusal b) :
    submitClaim orchestrator claim b =
      .error refusal { b with counters := b.counters.bump (.rejected refusal.reason) } := by
  have hOpen : ((b.tally claim).cast validator power).finalized = false :=
    h.finalized_tally hAgreed
  have hFinal := finalizeIfMet_of_refused hOpen hMet hRefused
  rw [submitClaim, h.judge_eq hAgreed, bind_of_error hFinal]
  rfl

/-! ## Runs -/

/-- **Progress.** In a run from an empty store let a first vote at the nonce after the cursor take
the power behind its fingerprint over the threshold of what is bonded now. What is settled is the
claim that the fingerprint stands for, which is of the same kind, nonce and fingerprint. As long as
it leaves all balances in range, the answer is `finalized` and the cursor moves to the nonce.
Otherwise it is a deposit and is refused, and nothing but the count of refused claims changes. -/
theorem progress_run (origin : Bridge) (events : List Event) (orchestrator : AccountAddress)
    (claim : Claim) (validator : ValidatorAddress) (power : UInt64)
    (hFirst : (origin.blank.run events).FirstVote orchestrator claim validator power)
    (hMet : origin.params.threshold.isMet
      ((origin.blank.run events).store.powerAt ⟨claim.kind, claim.nonce, claim.fingerprint⟩ +
        power.toNat) (origin.blank.run events).registry.totalPower.toNat = true) :
    let b := origin.blank.run events
    let held := (b.tally claim).claim
    (held.kind = claim.kind ∧ held.nonce = claim.nonce ∧ held.fingerprint = claim.fingerprint) ∧
    ((∀ account denom,
        (b.ledger.balance account denom).toNat + held.credit account denom < Nat.pow 256 32) →
      ∃ b', submitClaim orchestrator claim b = .ok .finalized b' ∧
        b'.store.claimCursor claim.kind = claim.nonce) ∧
    (∀ account denom,
      Nat.pow 256 32 ≤ (b.ledger.balance account denom).toNat + held.credit account denom →
      claim.kind = .deposit ∧
      submitClaim orchestrator claim b = .error (.invalid (.balanceOverflow denom))
        { b with counters := b.counters.bump (.rejected .invalid) }) := by
  intro b held
  have hAgreed : b.store.Agreed := agreed_run Store.agreed_empty events
  have hOrderly : b.store.Orderly := orderly_run Store.orderly_empty events
  have hKept : b.params = origin.params := params_run origin.blank events
  have hCarries : b.carries ((b.tally claim).cast validator power) = true := by
    rw [carries, Attestation.power_cast, power_tally hAgreed.filed, hKept]
    exact hMet
  refine ⟨claim_tally hAgreed.filed hOrderly.genuine hFirst.valid, fun hRoom => ?_,
    fun account denom hFull => ⟨?_, ?_⟩⟩
  · obtain ⟨b', hFinal⟩ := hFirst.submit_of_feasible hAgreed hCarries (feasible_iff.mpr hRoom)
    refine ⟨b', hFinal, ?_⟩
    rcases claimCursor_submitClaim hAgreed.filed hFinal claim.kind with ⟨-, -, hMoved⟩ | ⟨hOther, -⟩
    · exact Nonce.ext_toNat (hMoved.trans hFirst.next.symm)
    · exact absurd rfl (hOther rfl)
  · exact (claim_tally hAgreed.filed hOrderly.genuine hFirst.valid).1.symm.trans
      (kind_of_overflow hFull)
  · exact hFirst.submit_of_refused hAgreed hCarries (enact_of_overflow hFull)

/-- The only validator settles a deposit. -/
theorem progress_of_loneValidator :
    let b := (default : Bridge).blank.run loneValidator
    ∃ b', submitClaim ⟨.ofNat 20 2⟩ (depositOf ⟨1⟩ 600) b = .ok .finalized b' ∧
      b'.store.claimCursor .deposit = ⟨1⟩ := by
  intro b
  have hFirst : b.FirstVote ⟨.ofNat 20 2⟩ (depositOf ⟨1⟩ 600) ⟨.ofNat 20 1⟩ 1 :=
    ⟨by decide +kernel, by decide +kernel, rfl, fun _ => List.not_mem_nil⟩
  obtain ⟨-, hAdvance, -⟩ := progress_run default loneValidator _ _ _ _ hFirst (by decide +kernel)
  refine hAdvance fun account denom => ?_
  have hNothing : (b.ledger.balance account denom).toNat = 0 := rfl
  have hHeld : (b.tally (depositOf ⟨1⟩ 600)).claim = depositOf ⟨1⟩ 600 := rfl
  have hCredit : (depositOf ⟨1⟩ 600).credit account denom ≤ 600 := by
    rw [depositOf, Claim.credit]
    split <;> decide
  rw [hHeld, hNothing, Nat.zero_add]
  exact Nat.lt_of_le_of_lt hCredit (by decide)

/-- One deposit fills an account up. -/
def fullAccount : List Event :=
  loneValidator ++ [.message (.claim ⟨.ofNat 20 2⟩ (depositOf ⟨1⟩ (Nat.pow 256 32 - 1)))]

/-- **A quorum that settles nothing.** Once an account holds the largest amount of a denomination,
the vote of the only validator for one more unit completes the quorum and is refused. -/
theorem fullAccount_bars :
    let b := (default : Bridge).blank.run fullAccount
    let claim := depositOf ⟨2⟩ 1
    b.FirstVote ⟨.ofNat 20 2⟩ claim ⟨.ofNat 20 1⟩ 1 ∧
    b.params.threshold.isMet
      (b.store.powerAt ⟨claim.kind, claim.nonce, claim.fingerprint⟩ + (1 : UInt64).toNat)
      b.registry.totalPower.toNat = true ∧
    ∃ b', submitClaim ⟨.ofNat 20 2⟩ claim b =
      .error (.invalid (.balanceOverflow (voucherDenom ⟨.ofNat 20 7⟩ "USD"))) b' := by
  intro b claim
  have hRun : b.store.attestationsAt .deposit ⟨2⟩ = [] ∧ b.store.claimCursor .deposit = ⟨1⟩ ∧
      b.signer ⟨.ofNat 20 2⟩ = .ok (⟨.ofNat 20 1⟩, 1) ∧ b.registry.totalPower = 1 ∧
      (b.ledger.balance ⟨.ofNat 20 9⟩ (voucherDenom ⟨.ofNat 20 7⟩ "USD")).toNat =
        Nat.pow 256 32 - 1 := by
    decide +kernel
  obtain ⟨hNone, hCursor, hSigner, hTotal, hBalance⟩ := hRun
  have hAgreed : b.store.Agreed := agreed_run Store.agreed_empty fullAccount
  have hFind := Store.find?_of_attestationsAt_eq_nil hNone
  have hEmpty (details : Digest) : b.store.votesAt ⟨.deposit, ⟨2⟩, details⟩ = [] := by
    rw [Store.votesAt, hFind]
    rfl
  have hFirst : b.FirstVote ⟨.ofNat 20 2⟩ claim ⟨.ofNat 20 1⟩ 1 := by
    refine ⟨by decide +kernel, hSigner, ?_, fun details => ?_⟩
    · exact congrArg (fun cursor => cursor.toNat + 1) hCursor.symm
    · change _ ∉ b.store.votersAt ⟨.deposit, ⟨2⟩, details⟩
      rw [Store.votersAt, hEmpty]
      exact List.not_mem_nil
  have hPower : b.store.powerAt ⟨claim.kind, claim.nonce, claim.fingerprint⟩ = 0 :=
    congrArg (fun votes : List Vote => (votes.map fun vote => vote.power.toNat).sum)
      (hEmpty claim.fingerprint)
  have hMet : b.params.threshold.isMet
      (b.store.powerAt ⟨claim.kind, claim.nonce, claim.fingerprint⟩ + (1 : UInt64).toNat)
      b.registry.totalPower.toNat = true := by
    rw [hPower, hTotal, params_run]
    rfl
  have hCarries : b.carries ((b.tally claim).cast ⟨.ofNat 20 1⟩ 1) = true := by
    rw [carries, Attestation.power_cast, power_tally hAgreed.filed]
    exact hMet
  have hHeld : (b.tally claim).claim = claim := by
    rw [tally_eq hAgreed.filed]
    exact congrArg (fun found => (found.getD (.start claim)).claim) (hFind claim.fingerprint)
  have hFull : Nat.pow 256 32 ≤
      (b.ledger.balance ⟨.ofNat 20 9⟩ (voucherDenom ⟨.ofNat 20 7⟩ "USD")).toNat +
        (b.tally claim).claim.credit ⟨.ofNat 20 9⟩ (voucherDenom ⟨.ofNat 20 7⟩ "USD") := by
    have hCredit : claim.credit ⟨.ofNat 20 9⟩ (voucherDenom ⟨.ofNat 20 7⟩ "USD") = 1 :=
      Claim.credit_deposit _ ⟨(Amount.ofNat? 1).getD .zero, "USD", ⟨.ofNat 20 7⟩⟩ _ _
    rw [hBalance, hHeld, hCredit]
  exact ⟨hFirst, hMet, _, hFirst.submit_of_refused hAgreed hCarries (enact_of_overflow hFull)⟩

end Bridge

end TokenBridge

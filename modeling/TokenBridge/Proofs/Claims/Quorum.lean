import TokenBridge.Proofs.Bridge.Writes
import TokenBridge.Proofs.Claims.Majority
import TokenBridge.Proofs.Claims.Votes

/-!
# Quorums and the bonded power

What makes a claim final is compared with the total that the registry tells, and the registry tells
no total beyond 64 bits. Below that the total is the exact sum; above it the comparison is with the
largest number of 64 bits, so that a smaller part of the bonded power is enough.

* `Registry.toNat_totalPower_eq_min`: the total and the exact sum;
* `winner_of_finalized`: the tally that a claim makes final, and what it exceeded;
* `quorum_run`: a final tally exceeds the fraction of the bonded power, cut at 64 bits.
-/

namespace TokenBridge

theorem Registry.toNat_totalPower_eq_min (r : Registry) :
    r.totalPower.toNat = min r.exactPower (UInt64.size - 1) := by
  have hRoom : min r.exactPower (UInt64.size - 1) < UInt64.size :=
    Nat.lt_of_le_of_lt (Nat.min_le_right _ _) (by decide)
  rw [totalPower]
  exact Nat.mod_eq_of_lt hRoom

namespace Bridge

variable {b b' : Bridge} {orchestrator : AccountAddress} {claim : Claim} {a : Attestation}

/-- The claim that is answered with `finalized` leaves the tally of its fingerprint as the only
final one at its nonce, and that tally exceeds the threshold. -/
theorem winner_of_finalized (hAgreed : b.store.Agreed)
    (h : submitClaim orchestrator claim b = .ok .finalized b') :
    ∃ a, b'.store.winners claim.kind claim.nonce = [a] ∧ a.details = claim.fingerprint ∧
      b.carries a = true := by
  have hStep := step_after b (.message (.claim orchestrator claim))
  rw [after_claim, left, h] at hStep
  have hAgreed' : b'.store.Agreed := agreed_step hAgreed hStep
  obtain ⟨-, _, _, a, n, hAmended, hMet, hEnacted, rfl⟩ := amended_of_finalized h
  have hKey := hAmended.key_eq hAgreed.filed
  have hTallies := (hEnacted.tables_settle (a := a)).1
  have hFound : (n.settle a).store.attestations.find? a.key = some a.close := by
    rw [hTallies, Table.find?_insert, if_pos rfl]
  have hStored : a.close ∈ (n.settle a).store.attestations.values :=
    Table.mem_values_of_find? hFound
  refine ⟨a.close, hAgreed'.winners_eq (Store.mem_winners.mpr ⟨hStored, ?_, ?_, rfl⟩), ?_, hMet⟩
  · exact congrArg AttestationKey.kind hKey
  · exact congrArg AttestationKey.nonce hKey
  · exact congrArg AttestationKey.details hKey

/-- A tally that exceeds the threshold exceeds the fraction of the bonded power, as far as 64 bits
tell it. -/
theorem exceeds_min_of_carries (h : b.carries a = true) :
    min b.registry.exactPower (UInt64.size - 1) * b.params.threshold.numerator.toNat <
      a.power * b.params.threshold.denominator.toNat := by
  have hMore := exceeds_of_carries h
  rwa [Registry.toNat_totalPower_eq_min] at hMore

/-- **Quorum.** In a run from an empty store a claim that is answered with `finalized` leaves one
final tally at its nonce, that of its fingerprint. The tally's power exceeds the fraction of the
smaller of the bonded power and the largest number of 64 bits; so it exceeds the fraction of the
bonded power itself as long as this has 64 bits. -/
theorem quorum_run (origin : Bridge) (events : List Event) (orchestrator : AccountAddress)
    (claim : Claim) (b' : Bridge)
    (hFinal : submitClaim orchestrator claim (origin.blank.run events) = .ok .finalized b') :
    let b := origin.blank.run events
    let threshold := origin.params.threshold
    ∃ a, b'.store.winners claim.kind claim.nonce = [a] ∧ a.details = claim.fingerprint ∧
      min b.registry.exactPower (UInt64.size - 1) * threshold.numerator.toNat <
        a.power * threshold.denominator.toNat ∧
      (b.registry.exactPower < UInt64.size →
        b.registry.exactPower * threshold.numerator.toNat <
          a.power * threshold.denominator.toNat) := by
  intro b threshold
  have hAgreed : b.store.Agreed := agreed_run Store.agreed_empty events
  have hKept : b.params = origin.params := params_run origin.blank events
  obtain ⟨a, hWinner, hDetails, hMet⟩ := winner_of_finalized hAgreed hFinal
  have hMore := exceeds_min_of_carries hMet
  rw [hKept] at hMore
  refine ⟨a, hWinner, hDetails, hMore, fun hRoom => ?_⟩
  have hWhole : min b.registry.exactPower (UInt64.size - 1) = b.registry.exactPower := by omega
  rwa [hWhole] at hMore

/-- What became of a claim, and the power of the final tallies at its nonce. -/
def settledPowers (orchestrator : AccountAddress) (claim : Claim) (b : Bridge) :
    Option (ClaimOutcome × List Nat) :=
  match submitClaim orchestrator claim b with
  | .ok outcome b' =>
    some (outcome, (b'.store.winners claim.kind claim.nonce).map Attestation.power)
  | .error _ _ => none

theorem exists_of_settledPowers {outcome : ClaimOutcome} {powers : List Nat}
    (h : settledPowers orchestrator claim b = some (outcome, powers)) :
    ∃ b', submitClaim orchestrator claim b = .ok outcome b' ∧
      (b'.store.winners claim.kind claim.nonce).map Attestation.power = powers := by
  rw [settledPowers] at h
  cases hSubmit : submitClaim orchestrator claim b with
  | error refusal b' =>
    rw [hSubmit] at h
    cases h
  | ok judged b' =>
    rw [hSubmit] at h
    cases h
    exact ⟨b', rfl, rfl⟩

def sixHundred : Claim :=
  .deposit ⟨1⟩ ⟨(Amount.ofNat? 600).getD .zero, "USD", ⟨.ofNat 20 7⟩⟩ ⟨.ofNat 20 8⟩ ⟨.ofNat 20 9⟩

/-- Two validators, the first of which has five sixths of the power. -/
def fiveSixths : List Event :=
  [.staking (.bond ⟨.ofNat 20 1⟩ 5 ⟨.ofNat 20 2⟩), .staking (.bond ⟨.ofNat 20 3⟩ 1 ⟨.ofNat 20 4⟩)]

/-- The stronger validator makes a deposit final. -/
theorem quorum_of_fiveSixths :
    let b := (default : Bridge).blank.run fiveSixths
    b.registry.exactPower = 6 ∧
    ∃ b' a, submitClaim ⟨.ofNat 20 2⟩ sixHundred b = .ok .finalized b' ∧
      b'.store.winners .deposit ⟨1⟩ = [a] ∧ 6 * 2 < a.power * 3 := by
  intro b
  have hRun : settledPowers ⟨.ofNat 20 2⟩ sixHundred b = some (.finalized, [5]) := by
    decide +kernel
  have hTotal : b.registry.exactPower = 6 := by
    decide +kernel
  obtain ⟨b', hFinal, -⟩ := exists_of_settledPowers hRun
  obtain ⟨a, hWinner, -, -, hMore⟩ :=
    quorum_run default fiveSixths ⟨.ofNat 20 2⟩ sixHundred b' hFinal
  have hMore := hMore (hTotal ▸ (by decide : 6 < UInt64.size))
  exact ⟨hTotal, b', a, hFinal, hWinner, hTotal ▸ hMore⟩

/-- Three validators, each with the largest power there is. -/
def threeOfLargestPower : List Event :=
  [.staking (.bond ⟨.ofNat 20 1⟩ (.ofNat (UInt64.size - 1)) ⟨.ofNat 20 2⟩),
    .staking (.bond ⟨.ofNat 20 3⟩ (.ofNat (UInt64.size - 1)) ⟨.ofNat 20 4⟩),
    .staking (.bond ⟨.ofNat 20 5⟩ (.ofNat (UInt64.size - 1)) ⟨.ofNat 20 6⟩)]

/-- **Above 64 bits a third of the power is enough.** Under the threshold of two thirds, one of
three validators with the largest power mints a deposit alone. -/
theorem third_finalizes :
    let b := (default : Bridge).blank.run threeOfLargestPower
    b.params.validate = .ok () ∧
    ∃ b' a, submitClaim ⟨.ofNat 20 2⟩ sixHundred b = .ok .finalized b' ∧
      b'.store.winners .deposit ⟨1⟩ = [a] ∧
      ¬b.registry.exactPower * b.params.threshold.numerator.toNat <
        a.power * b.params.threshold.denominator.toNat := by
  intro b
  have hKept : b.params = (default : Bridge).params := params_run _ threeOfLargestPower
  have hRun : settledPowers ⟨.ofNat 20 2⟩ sixHundred b =
      some (.finalized, [UInt64.size - 1]) := by
    decide +kernel
  have hTotal : b.registry.exactPower = 3 * (UInt64.size - 1) := by
    decide +kernel
  obtain ⟨b', hFinal, hPowers⟩ := exists_of_settledPowers hRun
  obtain ⟨a, hWinner, hPower⟩ := List.map_eq_singleton_iff.mp hPowers
  refine ⟨by rw [hKept]; rfl, b', a, hFinal, hWinner, ?_⟩
  rw [hTotal, hPower, hKept]
  decide

end Bridge

end TokenBridge

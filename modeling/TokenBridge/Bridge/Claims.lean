import TokenBridge.Bridge.Basic
import TokenBridge.Denom
import TokenBridge.Store.Execution

/-!
# Claims

A claim at the nonce after the cursor of its kind is a vote on the attestation of its fingerprint.
A validator votes once at a nonce; a second fingerprint is an equivocation, recorded and reported
without being counted. Once the power of one fingerprint exceeds the threshold its claim takes
effect and the cursor moves on. A claim at or below the cursor is only recorded.
-/

namespace TokenBridge.Bridge

/-! ## Effects -/

/-- The one effect of a finalized claim. -/
def enact : Claim → Handler Unit
  | .deposit _ token _ receiver => do
    let b ← get
    let ledger ←
      check (b.ledger.mint receiver token.amount (voucherDenom token.contract token.symbol))
    set { b with ledger }
  | .batchExecuted _ batchNonce contract => write fun s => s.executeBatch contract batchNonce
  | .valsetExecuted _ valsetNonce => write fun s => s.executeValset valsetNonce

/-- Finalizes an attestation whose power exceeds the threshold of the power that is bonded now:
the claim takes effect, and the attestation and the cursor are stored. -/
def finalizeIfMet (a : Attestation) : Handler Bool := do
  let b ← get
  match a.finalize? b.registry.totalPower.toNat b.params.threshold with
  | none => return false
  | some done =>
    enact a.claim
    write fun s => (s.putAttestation done).setClaimCursor a.claim.kind a.claim.nonce
    count (.finalized a.claim.kind)
    return true

/-- Records a second claim of a validator at one nonce, and reports the validator. -/
def flagEquivocation (a : Attestation) (validator : ValidatorAddress) (first : Digest) :
    Handler ClaimOutcome := do
  write fun s => s.putAttestation (a.recordAudit validator)
  report [.equivocation validator a.claim.kind a.claim.nonce first a.details]
  count .equivocation
  return .equivocation

/-! ## The two ways of a claim -/

/-- The attestation of a claim among those at its nonce, or an empty one. -/
def tallyOf (existing : List Attestation) (claim : Claim) : Attestation :=
  (existing.find? fun a => a.details == claim.fingerprint).getD (.start claim)

/-- A claim at the nonce after the cursor. A repeated claim may still finalize, since the bonded
power can have fallen. -/
def vote (validator : ValidatorAddress) (power : UInt64) (claim : Claim) :
    Handler ClaimOutcome := do
  let existing := (← get).store.attestationsAt claim.kind claim.nonce
  let tally := tallyOf existing claim
  match existing.find? fun a => a.hasVoted validator with
  | some prior =>
    if prior.details = claim.fingerprint ∨ tally.isRecorded validator then
      if ← finalizeIfMet tally then return .finalized
      return .duplicate
    else flagEquivocation tally validator prior.details
  | none =>
    let tally ← check ((tally.addVote validator power).mapError .invalid)
    if ← finalizeIfMet tally then return .finalized
    write fun s => s.putAttestation tally
    return .accepted

/-- A claim at or below the cursor. -/
def recordLate (validator : ValidatorAddress) (claim : Claim) (expected : Nonce) :
    Handler ClaimOutcome := do
  let existing := (← get).store.attestationsAt claim.kind claim.nonce
  if !existing.any Attestation.finalized then throw (.outOfSequence expected claim.nonce)
  let tally := tallyOf existing claim
  if tally.isRecorded validator then return .duplicate
  match existing.find? fun a => a.details != claim.fingerprint && a.isRecorded validator with
  | some prior => flagEquivocation tally validator prior.details
  | none =>
    write fun s => s.putAttestation (tally.recordAudit validator)
    return if tally.finalized then .auditRecorded else .alreadyFinalized

def judge (orchestrator : AccountAddress) (claim : Claim) : Handler ClaimOutcome := do
  let b ← get
  check (claim.validate.mapError .invalid)
  let (validator, power) ← check (b.signer orchestrator)
  let cursor := b.store.claimCursor claim.kind
  let expected ← check (following cursor)
  if claim.nonce ≤ cursor then recordLate validator claim expected
  else if claim.nonce = expected then vote validator power claim
  else throw (.outOfSequence expected claim.nonce)

/-- Submits a claim, and counts what becomes of it. -/
def submitClaim (orchestrator : AccountAddress) (claim : Claim) : Handler ClaimOutcome := fun b =>
  match judge orchestrator claim b with
  | .ok outcome b => (count (.submitted outcome) *> pure outcome) b
  | .error refusal b => (count (.rejected refusal.reason) *> throw refusal) b

end TokenBridge.Bridge

import TokenBridge.Claim.Basic
import TokenBridge.Threshold

/-!
# Attestations

The tally of the claims that agree in kind, nonce and fingerprint. A vote carries the power that the
voter had when it was cast. Claims that come too late or contradict an earlier one of the same
validator are recorded for audit without being counted. Once the counted power exceeds the threshold
the attestation is finalized, and no vote is added any more.
-/

namespace TokenBridge

/-- What tells attestations apart. -/
structure AttestationKey where
  kind : ClaimKind
  nonce : Nonce
  details : Digest
deriving DecidableEq, Repr

instance : Ranked AttestationKey where
  rank key := rank key.kind ++ rank key.nonce ++ [key.details.toNat]
  rank_injective := by
    rintro ⟨k, n, d⟩ ⟨k', n', d'⟩ h
    have h : [k.tag.toNat, n.value.toNat, d.toNat] = [k'.tag.toNat, n'.value.toNat, d'.toNat] := h
    simp only [List.cons.injEq, and_true] at h
    obtain ⟨hk, hn, hd⟩ := h
    have hk : k = k' := Ranked.rank_injective (congrArg (fun m => [m]) hk)
    have hn : n = n' := Ranked.rank_injective (congrArg (fun m => [m]) hn)
    have hd : d = d' := Word.ext hd
    rw [hk, hn, hd]

instance : JsonForm AttestationKey where
  toJson key :=
    .record [("claim_type", toJson key.kind), ("nonce", toJson key.nonce),
      ("details_hash", toJson key.details)]
  ofJson? value := do
    let fields ← value.record? ["claim_type", "nonce", "details_hash"]
    some { kind := ← Json.required? "claim_type" fields
           nonce := ← Json.required? "nonce" fields
           details := ← Json.required? "details_hash" fields }

/-- A counted claim. -/
structure Vote where
  validator : ValidatorAddress
  power : UInt64
deriving DecidableEq, Repr

instance : JsonForm Vote where
  toJson vote := .record [("validator", toJson vote.validator), ("power", toJson vote.power)]
  ofJson? value := do
    let fields ← value.record? ["validator", "power"]
    some { validator := ← Json.required? "validator" fields
           power := ← Json.required? "power" fields }

/-- The tally of claims that agree. Votes and audit entries are in order of submission. -/
structure Attestation where
  claim : Claim
  details : Digest
  votes : List Vote
  audit : List ValidatorAddress
  finalized : Bool
deriving DecidableEq, Repr

namespace Attestation

def start (claim : Claim) : Attestation :=
  ⟨claim, claim.fingerprint, [], [], false⟩

def key (a : Attestation) : AttestationKey :=
  ⟨a.claim.kind, a.claim.nonce, a.details⟩

def power (a : Attestation) : Nat :=
  (a.votes.map fun vote => vote.power.toNat).foldr (· + ·) 0

def hasVoted (a : Attestation) (validator : ValidatorAddress) : Bool :=
  a.votes.any fun vote => vote.validator == validator

/-- Whether the validator voted or is recorded for audit. -/
def isRecorded (a : Attestation) (validator : ValidatorAddress) : Bool :=
  a.hasVoted validator || a.audit.contains validator

/-- Counts a vote, once for each validator and only before finalization. -/
def addVote (a : Attestation) (validator : ValidatorAddress) (power : UInt64) :
    Except Invalid Attestation :=
  if a.finalized then .error (.finalized a.claim.kind a.claim.nonce)
  else if a.hasVoted validator then .error (.voted validator a.claim.kind a.claim.nonce)
  else .ok { a with votes := a.votes ++ [⟨validator, power⟩] }

/-- Records a claim of the validator without counting it. -/
def recordAudit (a : Attestation) (validator : ValidatorAddress) : Attestation :=
  if a.isRecorded validator then a else { a with audit := a.audit ++ [validator] }

/-- The finalized tally, if it is not final yet and its power exceeds the threshold. -/
def finalize? (a : Attestation) (total : Nat) (threshold : Threshold) : Option Attestation :=
  if !a.finalized && threshold.isMet a.power total then some { a with finalized := true } else none

instance : JsonForm Attestation where
  toJson a :=
    .record [("claim", toJson a.claim), ("details_hash", toJson a.details),
      ("votes", toJson a.votes), ("audit", toJson a.audit), ("finalized", toJson a.finalized)]
  ofJson? value := do
    let fields ← value.record? ["claim", "details_hash", "votes", "audit", "finalized"]
    some { claim := ← Json.required? "claim" fields
           details := ← Json.required? "details_hash" fields
           votes := ← Json.required? "votes" fields
           audit := ← Json.required? "audit" fields
           finalized := ← Json.required? "finalized" fields }

end Attestation

/-- What became of a claim that was not refused. -/
inductive ClaimOutcome where
  | accepted
  | finalized
  | duplicate
  | equivocation
  | auditRecorded
  | alreadyFinalized
deriving DecidableEq, Repr

def ClaimOutcome.all : List ClaimOutcome :=
  [.accepted, .finalized, .duplicate, .equivocation, .auditRecorded, .alreadyFinalized]

def ClaimOutcome.label : ClaimOutcome → String
  | .accepted => "accepted"
  | .finalized => "finalized"
  | .duplicate => "duplicate"
  | .equivocation => "equivocation"
  | .auditRecorded => "audit_recorded"
  | .alreadyFinalized => "already_finalized"

end TokenBridge

import TokenBridge.Claim.Kind
import TokenBridge.Confirmation

/-!
# Slashing signals

What the bridge reports about a validator that claimed two different things at one nonce, or that
left something unconfirmed.
-/

namespace TokenBridge

/-- A report about a validator. -/
inductive SlashingSignal where
  | equivocation (validator : ValidatorAddress) (kind : ClaimKind) (nonce : Nonce)
      (first second : Digest)
  | missedConfirmation (validator : ValidatorAddress) (stream : ConfirmStream) (nonce : Nonce)
deriving DecidableEq, Repr

namespace SlashingSignal

def validator : SlashingSignal → ValidatorAddress
  | .equivocation validator .. => validator
  | .missedConfirmation validator .. => validator

def stream? : SlashingSignal → Option ConfirmStream
  | .equivocation .. => none
  | .missedConfirmation _ stream _ => some stream

def label : SlashingSignal → String
  | .equivocation .. => "equivocation"
  | .missedConfirmation .. => "missed_confirmation"

def json : SlashingSignal → Json
  | .equivocation validator kind nonce first second =>
    .record [("Equivocation", .record [("validator", toJson validator),
      ("claim_type", toJson kind), ("nonce", toJson nonce), ("first_details", toJson first),
      ("second_details", toJson second)])]
  | .missedConfirmation validator stream nonce =>
    .record [("MissedConfirmation", .record [("validator", toJson validator),
      ("stream", toJson stream), ("nonce", toJson nonce)])]

end SlashingSignal

end TokenBridge

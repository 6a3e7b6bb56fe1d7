import TokenBridge.Bridge.Claims
import TokenBridge.Bridge.Confirmations
import TokenBridge.Bridge.Keys
import TokenBridge.Bridge.Valsets
import TokenBridge.Bridge.Withdrawals

/-!
# Messages

The requests that a bridge handles, and its answers.
-/

namespace TokenBridge

inductive Message where
  | claim (orchestrator : AccountAddress) (claim : Claim)
  | confirmValset (orchestrator : AccountAddress) (nonce : Nonce) (signature : List UInt8)
  | confirmBatch (orchestrator : AccountAddress) (contract : EthAddress) (nonce : Nonce)
      (signature : List UInt8)
  | registerKey (validator : ValidatorAddress) (key : EthAddress) (signature : List UInt8)
  | send (sender : AccountAddress) (dest : EthAddress) (amount fee : Token)
  | buildBatch (contract : EthAddress)
  | requestValset
  | updateValset
  | reportMissedValset (nonce : Nonce)
  | reportMissedBatch (contract : EthAddress) (nonce : Nonce)

/-- The answer to a request that was not refused. -/
inductive Reply where
  | claimed (outcome : ClaimOutcome)
  | confirmed (outcome : ConfirmOutcome)
  | registered
  | queued (id : UInt64)
  | batch (made : Batch)
  | valset (made : Option Valset)
  | reported (signals : List SlashingSignal)

def Reply.json : Reply → Json
  | .claimed outcome => .text outcome.label
  | .confirmed outcome => .text outcome.label
  | .registered => .null
  | .queued id => toJson id
  | .batch made => toJson made
  | .valset made => toJson made
  | .reported signals => .arr (signals.map SlashingSignal.json)

namespace Bridge

def handle : Message → Handler Reply
  | .claim orchestrator claim => .claimed <$> submitClaim orchestrator claim
  | .confirmValset orchestrator nonce signature =>
    .confirmed <$> confirmValset orchestrator nonce signature
  | .confirmBatch orchestrator contract nonce signature =>
    .confirmed <$> confirmBatch orchestrator contract nonce signature
  | .registerKey validator key signature =>
    (fun _ => .registered) <$> registerKey validator key signature
  | .send sender dest amount fee => .queued <$> send sender dest amount fee
  | .buildBatch contract => .batch <$> buildBatch contract
  | .requestValset => (fun v => .valset (some v)) <$> requestValset
  | .updateValset => .valset <$> updateValset
  | .reportMissedValset nonce => .reported <$> reportMissedValset nonce
  | .reportMissedBatch contract nonce => .reported <$> reportMissedBatch contract nonce

end Bridge

end TokenBridge

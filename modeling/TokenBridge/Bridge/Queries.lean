import TokenBridge.Bridge.Basic

/-!
# Questions

What a bridge tells without changing. Where several things answer a question, the order in which
they are looked through is part of the answer.
-/

namespace TokenBridge

/-- The last element with the greatest measure. -/
def lastGreatest? {α : Type} (measure : α → Nat) (l : List α) : Option α :=
  l.foldl (fun best a => if best.any fun m => measure a < measure m then best else some a) none

namespace Bridge

/-! ## Signer sets -/

/-- The newest signer sets, newest first. -/
def latestValsets (b : Bridge) (count : Nat) : List Valset :=
  b.store.valsets.values.reverse.take count

def valsetCheckpoint (b : Bridge) (nonce : Nonce) : Except BridgeError Digest :=
  b.valsetAt nonce >>= b.checkpointOfValset

/-- The oldest signer set that a validator has not confirmed. -/
def valsetToConfirm (b : Bridge) (validator : ValidatorAddress) : Option Valset :=
  b.store.valsets.values.find? fun v => (b.store.valsetConfirm? v.nonce validator).isNone

/-! ## Batches -/

/-- The newest pending batch of a contract. -/
def pendingBatch (b : Bridge) (contract : EthAddress) : Option Batch :=
  (b.store.pendingBatchesOf contract).getLast?

def batchCheckpoint (b : Bridge) (contract : EthAddress) (nonce : Nonce) :
    Except BridgeError Digest :=
  b.batchAt contract nonce >>= b.checkpointOfBatch

/-- The pending batch of the least nonce, of any contract, that a validator has not confirmed. -/
def batchToConfirm (b : Bridge) (validator : ValidatorAddress) : Option Batch :=
  (b.store.pendingBatches.mergeSort fun x y => x.nonce ≤ y.nonce).find? fun batch =>
    (b.store.batchConfirm? batch.contract batch.nonce validator).isNone

/-! ## Claims -/

/-- The attestation at a nonce: the finalized one, or else the last one with the most power. -/
def attestation (b : Bridge) (kind : ClaimKind) (nonce : Nonce) : Option Attestation :=
  let existing := b.store.attestationsAt kind nonce
  existing.find? Attestation.finalized <|> lastGreatest? Attestation.power existing

end Bridge

end TokenBridge

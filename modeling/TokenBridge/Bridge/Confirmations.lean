import TokenBridge.Bridge.Basic

/-!
# Confirmations

A validator confirms the things on a stream one after the other, each by the signature of its
registered key over the checkpoint. What was pruned or cancelled is passed over. Where the time for
confirmations has run out, the bonded validators that left something unconfirmed are reported.
-/

namespace TokenBridge.Bridge

/-- The nonce that a validator has to confirm next on a stream: the least one of those to confirm
above the cursor, or else the one after the cursor. -/
def nextToConfirm (cursor : Nonce) (nonces : List Nonce) : Except BridgeError Nonce :=
  match (nonces.filter (cursor < ·)).min? with
  | some least => .ok least
  | none => following cursor

/-- Accepts only the nonce that a validator has to confirm next on a stream. -/
def checkTurn (b : Bridge) (validator : ValidatorAddress) (stream : ConfirmStream)
    (nonces : List Nonce) (nonce : Nonce) : Except BridgeError Unit := do
  let expected ← nextToConfirm (b.store.confirmCursor validator stream) nonces
  if nonce ≠ expected then throw (.outOfSequence expected nonce)

/-- The parts of a signature that was accepted. -/
def readSignature (signature : List UInt8) : Except BridgeError EthSignature :=
  (EthSignature.ofBytes signature).mapError fun fault => .invalid (.signature fault)

def confirmValset (orchestrator : AccountAddress) (nonce : Nonce) (signature : List UInt8) :
    Handler ConfirmOutcome := do
  let b ← get
  let (validator, key) ← check (b.confirmer orchestrator)
  let v ← check (b.valsetAt nonce)
  if (b.store.valsetConfirm? nonce validator).isSome then return .duplicate
  check (b.checkTurn validator .valset (b.store.valsets.values.map Valset.nonce) nonce)
  let hash ← check (b.checkpointOfValset v)
  check (checkSignature hash signature key)
  let sig ← check (readSignature signature)
  write fun s =>
    (s.putValsetConfirm ⟨nonce, validator, orchestrator, key, sig⟩).setConfirmCursor validator
      .valset nonce
  count .valsetConfirmed
  return .stored

def confirmBatch (orchestrator : AccountAddress) (contract : EthAddress) (nonce : Nonce)
    (signature : List UInt8) : Handler ConfirmOutcome := do
  let b ← get
  let (validator, key) ← check (b.confirmer orchestrator)
  let batch ← check (b.batchAt contract nonce)
  if !batch.isPending then throw (.invalid (.batchClosed nonce contract))
  if (b.store.batchConfirm? contract nonce validator).isSome then return .duplicate
  check (b.checkTurn validator (.batch contract)
    ((b.store.pendingBatchesOf contract).map Batch.nonce) nonce)
  let hash ← check (b.checkpointOfBatch batch)
  check (checkSignature hash signature key)
  let sig ← check (readSignature signature)
  write fun s =>
    (s.putBatchConfirm ⟨nonce, contract, validator, orchestrator, key, sig⟩).setConfirmCursor
      validator (.batch contract) nonce
  count .batchConfirmed
  return .stored

/-! ## Missed confirmations -/

/-- The reports about bonded validators that did not confirm. -/
def missed (b : Bridge) (stream : ConfirmStream) (nonce : Nonce)
    (confirmed : ValidatorAddress → Bool) : List SlashingSignal :=
  ((b.registry.bonded.map Prod.fst).filter fun validator => !confirmed validator).map
    fun validator => .missedConfirmation validator stream nonce

def reportMissedValset (nonce : Nonce) : Handler (List SlashingSignal) := do
  let b ← get
  let _ ← check (b.valsetAt nonce)
  let signals := b.missed .valset nonce fun validator =>
    (b.store.valsetConfirm? nonce validator).isSome
  report signals
  return signals

def reportMissedBatch (contract : EthAddress) (nonce : Nonce) :
    Handler (List SlashingSignal) := do
  let b ← get
  let _ ← check (b.batchAt contract nonce)
  let signals := b.missed (.batch contract) nonce fun validator =>
    (b.store.batchConfirm? contract nonce validator).isSome
  report signals
  return signals

end TokenBridge.Bridge

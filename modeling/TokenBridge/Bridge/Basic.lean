import TokenBridge.Counter
import TokenBridge.Ledger
import TokenBridge.Params
import TokenBridge.Registry
import TokenBridge.Slashing
import TokenBridge.Store.Basic

/-!
# Bridges

A bridge is its settings and its store, together with what it shares with the host chain: the
validators, the balances, the slashing reports and the counters. A message is handled step by step;
a refusal keeps the state as it was when the refusal was met, so that it is a theorem, and not a
convention, that refused messages leave no trace.
-/

namespace TokenBridge

/-- A bridge with its surroundings. -/
structure Bridge where
  params : Params
  store : Store
  registry : Registry
  ledger : Ledger
  signals : List SlashingSignal
  counters : Counters

instance : Inhabited Bridge :=
  ⟨⟨.default, .empty, .empty, .empty, [], .zero⟩⟩

/-- The handling of a message. -/
abbrev Handler : Type → Type :=
  EStateM BridgeError Bridge

namespace Bridge

/-- A bridge to which nothing has happened, with settings that are valid. -/
def launch (params : Params) : Except Invalid Bridge := do
  params.validate
  return { (default : Bridge) with params }

/-! ## Single steps -/

/-- Goes on with the result of a check, or refuses. -/
def check {α : Type} : Except BridgeError α → Handler α
  | .ok a => pure a
  | .error e => throw e

def write (f : Store → Store) : Handler Unit :=
  modify fun b => { b with store := f b.store }

def count (counter : Counter) : Handler Unit :=
  modify fun b => { b with counters := b.counters.bump counter }

def report (signals : List SlashingSignal) : Handler Unit :=
  modify fun b => { b with signals := b.signals ++ signals }

/-! ## Checks -/

/-- The following nonce; there is none after the largest. -/
def following (nonce : Nonce) : Except BridgeError Nonce :=
  match nonce.next? with
  | some next => .ok next
  | none => .error (.fatal (.nonce nonce))

/-- The bonded validator with power that an account acts for. -/
def signer (b : Bridge) (orchestrator : AccountAddress) :
    Except BridgeError (ValidatorAddress × UInt64) :=
  match b.registry.resolve orchestrator with
  | none => .error (.unauthorized (.noDelegation orchestrator))
  | some validator =>
    if !b.registry.isBonded validator then .error (.unauthorized (.unbonded validator))
    else if b.registry.powerOf validator = 0 then .error (.unauthorized (.powerless validator))
    else .ok (validator, b.registry.powerOf validator)

/-- The bonded validator with power that an account acts for, and its registered key. -/
def confirmer (b : Bridge) (orchestrator : AccountAddress) :
    Except BridgeError (ValidatorAddress × EthAddress) := do
  let (validator, _) ← b.signer orchestrator
  match b.store.key? validator with
  | some key => return (validator, key)
  | none => throw (.unauthorized (.keyless validator))

def valsetAt (b : Bridge) (nonce : Nonce) : Except BridgeError Valset :=
  match b.store.valset? nonce with
  | some v => .ok v
  | none => .error (.notFound (.valset nonce))

def batchAt (b : Bridge) (contract : EthAddress) (nonce : Nonce) : Except BridgeError Batch :=
  match b.store.batch? contract nonce with
  | some batch => .ok batch
  | none => .error (.notFound (.batch nonce contract))

/-! ## Checkpoints and signatures -/

def checkpointOfValset (b : Bridge) (v : Valset) : Except BridgeError Digest :=
  (v.checkpoint b.params.bridgeId).mapError fun fault => .fatal (.checkpoint fault)

def checkpointOfBatch (b : Bridge) (batch : Batch) : Except BridgeError Digest :=
  (batch.checkpoint b.params.bridgeId).mapError fun fault => .fatal (.checkpoint fault)

def checkSignature (hash : Digest) (signature : List UInt8) (key : EthAddress) :
    Except BridgeError Unit :=
  (EthSignature.verify hash signature key).mapError fun fault => .invalid (.signature fault)

end Bridge

end TokenBridge

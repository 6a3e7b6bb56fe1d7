import TokenBridge.Bridge.Basic

/-!
# Keys

A bonded validator registers the Ethereum key that it confirms with. The key signs the validator's
address, so that nobody registers a key of another one, and a key belongs to one validator at most.
-/

namespace TokenBridge.Bridge

/-- The hash that a key signs when it is registered. -/
def registrationHash (validator : ValidatorAddress) : Digest :=
  keccak256 validator.toBytes

/-- Accepts a key that no other validator registered. -/
def checkFree (b : Bridge) (validator : ValidatorAddress) (key : EthAddress) :
    Except BridgeError Unit :=
  match b.store.otherOwner? validator key with
  | some owner => .error (.invalid (.keyTaken key owner))
  | none => .ok ()

/-- Registers the key of a validator, in place of any former one. -/
def registerKey (validator : ValidatorAddress) (key : EthAddress) (signature : List UInt8) :
    Handler Unit := do
  let b ← get
  if !b.registry.isBonded validator then throw (.unauthorized (.unbonded validator))
  check (key.requireNonZero.mapError fun fault => .invalid (.malformed fault))
  check (checkSignature (registrationHash validator) signature key)
  check (b.checkFree validator key)
  write fun s => s.putKey validator key

end TokenBridge.Bridge

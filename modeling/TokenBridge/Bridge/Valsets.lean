import TokenBridge.Bridge.Basic

/-!
# Signer sets of the bridge

The members of a signer set are the bonded validators with a registered key, weighted by their share
of the bonded power. A share too small for the scale does not count.
-/

namespace TokenBridge.Bridge

/-- The members that the validators make up now, in order of validator. -/
def snapshot (b : Bridge) : List Member :=
  b.registry.bonded.filterMap fun (validator, power) =>
    match b.store.key? validator with
    | none => none
    | some key =>
      let weight := normalizePower power b.registry.totalPower
      if weight = 0 then none else some ⟨weight, key⟩

def nextValsetNonce (b : Bridge) : Except BridgeError Nonce :=
  following ((b.store.latestValset?.map Valset.nonce).getD .zero)

def currentValset (b : Bridge) : Except BridgeError Valset := do
  let nonce ← b.nextValsetNonce
  (Valset.make nonce b.snapshot).mapError .invalid

/-- Stores a signer set whose checkpoint can be computed. -/
def storeValset (v : Valset) : Handler Unit := do
  let b ← get
  let _ ← check (b.checkpointOfValset v)
  write fun s => s.putValset v

def requestValset : Handler Valset := do
  let b ← get
  if b.snapshot.isEmpty then throw (.invalid .noKeyHolders)
  let v ← check b.currentValset
  storeValset v
  return v

/-- Makes and stores the signer set of now, if there is one and it is farther from the newest stored
set than the settings allow. -/
def updateValset : Handler (Option Valset) := do
  let b ← get
  if b.snapshot.isEmpty then return none
  let v ← check b.currentValset
  if b.store.latestValset?.any fun latest => v.distance latest ≤ b.params.changeThreshold then
    return none
  storeValset v
  return some v

end TokenBridge.Bridge

import TokenBridge.Distinct
import TokenBridge.Error
import TokenBridge.Table.Basic

/-!
# Signer sets

The contract on Ethereum accepts what a set of weighted keys has signed. A signer set lists its
members in the one canonical order, by falling power and then by rising address; the checkpoint that
is signed depends on the order.
-/

namespace TokenBridge

/-- A key with its weight. -/
structure Member where
  power : UInt64
  address : EthAddress
deriving DecidableEq, Repr

namespace Member

/-- Power and key are there. -/
def validate (m : Member) : Except Invalid Unit := do
  if m.power = 0 then throw (.zeroPower m.address)
  m.address.requireNonZero.mapError .malformed

/-- The canonical order: falling power, then rising address. -/
def le (a b : Member) : Bool :=
  decide (b.power.toNat < a.power.toNat) ||
    (a.power == b.power && a.address.le b.address)

instance : JsonForm Member where
  toJson m := .record [("power", toJson m.power), ("eth_address", toJson m.address)]
  ofJson? value := do
    let fields ← value.record? ["power", "eth_address"]
    some { power := ← Json.required? "power" fields
           address := ← Json.required? "eth_address" fields }

end Member

/-- The weight of the whole bonded power in a signer set. -/
def powerScale : Nat :=
  UInt32.size - 1

/-- The share of a power in the total, on the scale and rounded down. -/
def normalizePower (power total : UInt64) : UInt64 :=
  if total = 0 then 0
  else UInt64.ofNat (min (power.toNat * powerScale / total.toNat) powerScale)

/-- A numbered set of signers. -/
structure Valset where
  nonce : Nonce
  members : List Member
deriving DecidableEq, Repr

namespace Valset

/-- The canonical set of some members, which must be valid and have distinct keys. -/
def make (nonce : Nonce) (members : List Member) : Except Invalid Valset := do
  if members = [] then throw .noMembers
  let _ ← distinct Member.address Member.validate (fun m => .repeatedMember m.address) [] members
  return ⟨nonce, members.mergeSort Member.le⟩

/-- Making the set anew changes nothing. -/
def validate (v : Valset) : Except Invalid Unit := do
  let made ← make v.nonce v.members
  if made.members ≠ v.members then throw (.memberOrder v.nonce)

def totalPower (v : Valset) : Nat :=
  (v.members.map fun m => m.power.toNat).foldr (· + ·) 0

def powerOf (v : Valset) (address : EthAddress) : Option UInt64 :=
  (v.members.find? fun m => m.address == address).map Member.power

/-! ## Checkpoints -/

/-- The bytes whose hash the signers sign, under the id of the bridge. -/
def preimage (v : Valset) (bridgeId : String) : Except TagTooLong (List UInt8) := do
  let id ← Abi.tag bridgeId
  let kind ← Abi.tag "checkpoint"
  return Abi.encode [.word id, .word kind, .nonce v.nonce,
    .array (v.members.map fun m => .address m.address),
    .array (v.members.map fun m => .uint64 m.power)]

def checkpoint (v : Valset) (bridgeId : String) : Except TagTooLong Digest :=
  (v.preimage bridgeId).map keccak256

/-! ## Distance -/

/-- The power of each key; the last mention counts. -/
def powers (v : Valset) : Table EthAddress Nat :=
  v.members.foldl (fun t m => t.insert m.address m.power.toNat) .empty

/-- The power that moved between two sets: the absolute differences over all keys of either, where
a missing key has no power. -/
def moved (v w : Valset) : Nat :=
  let before := v.powers
  let after := w.powers
  let kept := before.entries.map fun (key, power) =>
    let other := (after.find? key).getD 0
    (power - other) + (other - power)
  let added := (after.filter fun key _ => !before.contains key).values
  kept.foldr (· + ·) 0 + added.foldr (· + ·) 0

/-- The moved power in hundredths of a percent of the scale, rounded down. -/
def distance (v w : Valset) : UInt64 :=
  UInt64.ofNat (v.moved w * 10000 / powerScale)

instance : JsonForm Valset where
  toJson v := .record [("nonce", toJson v.nonce), ("members", toJson v.members)]
  ofJson? value := do
    let fields ← value.record? ["nonce", "members"]
    some { nonce := ← Json.required? "nonce" fields
           members := ← Json.required? "members" fields }

end Valset

end TokenBridge

import TokenBridge.Error
import TokenBridge.Table.Basic

/-!
# Validators

The host chain's validators: their power, whether they are bonded, and which account may act for
them. Only bonded power counts.
-/

namespace TokenBridge

structure Standing where
  power : UInt64
  bonded : Bool
  orchestrator : AccountAddress
deriving DecidableEq, Repr

structure Registry where
  standings : Table ValidatorAddress Standing

/-- A change that the host chain makes to its validators. -/
inductive Staking where
  | bond (validator : ValidatorAddress) (power : UInt64) (orchestrator : AccountAddress)
  | setPower (validator : ValidatorAddress) (power : UInt64)
  | unbond (validator : ValidatorAddress)
deriving DecidableEq, Repr

namespace Registry

def empty : Registry :=
  ⟨.empty⟩

instance : Inhabited Registry :=
  ⟨empty⟩

/-! ## Changes -/

/-- Bonds a validator, in place of its former standing. -/
def bond (r : Registry) (validator : ValidatorAddress) (power : UInt64)
    (orchestrator : AccountAddress) : Registry :=
  ⟨r.standings.insert validator ⟨power, true, orchestrator⟩⟩

/-- Changes the standing of a known validator. -/
def change (r : Registry) (validator : ValidatorAddress) (f : Standing → Standing) :
    Except BridgeError Registry :=
  match r.standings.find? validator with
  | some standing => .ok ⟨r.standings.insert validator (f standing)⟩
  | none => .error (.notFound (.validator validator))

def setPower (r : Registry) (validator : ValidatorAddress) (power : UInt64) :
    Except BridgeError Registry :=
  r.change validator fun standing => { standing with power }

/-- Unbonds a known validator, which keeps its power and its orchestrator. -/
def unbond (r : Registry) (validator : ValidatorAddress) : Except BridgeError Registry :=
  r.change validator fun standing => { standing with bonded := false }

def apply (r : Registry) : Staking → Except BridgeError Registry
  | .bond validator power orchestrator => .ok (r.bond validator power orchestrator)
  | .setPower validator power => r.setPower validator power
  | .unbond validator => r.unbond validator

/-! ## Questions -/

def isBonded (r : Registry) (validator : ValidatorAddress) : Bool :=
  (r.standings.find? validator).any Standing.bonded

/-- The power of a bonded validator; that of any other is zero. -/
def powerOf (r : Registry) (validator : ValidatorAddress) : UInt64 :=
  (((r.standings.find? validator).filter Standing.bonded).map Standing.power).getD 0

/-- The bonded validators with their power, in order of address. -/
def bonded (r : Registry) : List (ValidatorAddress × UInt64) :=
  (r.standings.entries.filter fun entry => entry.2.bonded).map fun entry =>
    (entry.1, entry.2.power)

/-- The sum of the bonded power. -/
def exactPower (r : Registry) : Nat :=
  (r.bonded.map fun entry => entry.2.toNat).foldr (· + ·) 0

/-- The sum of the bonded power, cut at the largest number of 64 bits. -/
def totalPower (r : Registry) : UInt64 :=
  UInt64.ofNat (min r.exactPower (UInt64.size - 1))

/-- The validator that an account acts for: the first one in order of address, bonded or not. -/
def resolve (r : Registry) (orchestrator : AccountAddress) : Option ValidatorAddress :=
  (r.standings.entries.find? fun entry => entry.2.orchestrator == orchestrator).map Prod.fst

end Registry

end TokenBridge

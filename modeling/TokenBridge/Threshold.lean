import TokenBridge.Error

/-!
# Thresholds

The fraction of the bonded power that an agreement has to exceed. Powers are compared as exact
integers, without division.
-/

namespace TokenBridge

/-- A fraction of the bonded power. -/
structure Threshold where
  numerator : UInt64
  denominator : UInt64
deriving DecidableEq, Repr

namespace Threshold

def twoThirds : Threshold :=
  ⟨2, 3⟩

/-- The fraction lies between one half and one. -/
def validate (t : Threshold) : Except Invalid Unit := do
  if t.denominator = 0 then throw .zeroDenominator
  let n := t.numerator.toNat
  let d := t.denominator.toNat
  if n * 2 < d ∨ d < n then throw (.thresholdRange t.numerator t.denominator)

/-- Whether the attested part of the total exceeds the fraction. No part of nothing does. -/
def isMet (t : Threshold) (attested total : Nat) : Bool :=
  decide (total ≠ 0) && decide (total * t.numerator.toNat < attested * t.denominator.toNat)

instance : JsonForm Threshold where
  toJson t :=
    .record [("numerator", toJson t.numerator), ("denominator", toJson t.denominator)]
  ofJson? value := do
    let fields ← value.record? ["numerator", "denominator"]
    some { numerator := ← Json.required? "numerator" fields
           denominator := ← Json.required? "denominator" fields }

end Threshold

end TokenBridge

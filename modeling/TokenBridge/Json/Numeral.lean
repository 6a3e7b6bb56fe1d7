/-!
# JSON numbers

A number is held as a mantissa below `2^64` times a power of ten. Digits that the mantissa has no
room for are dropped; before the point each of them still counts as a factor of ten.

A number that is no integer of 64 bits stands for a binary double: the double nearest to its
mantissa, multiplied by the double nearest to its power of ten. `isFinite` tells whether that
product stays in range.
-/

namespace TokenBridge

/-- A number as read: `±mantissa · 10^exponent`. An integer was written with neither a fraction nor
an exponent, and has room in the mantissa. -/
structure Numeral where
  negative : Bool
  mantissa : Nat
  exponent : Int
  integer : Bool
deriving DecidableEq, Repr

namespace Numeral

def ofNat (n : Nat) : Numeral :=
  ⟨false, n, 0, true⟩

/-- The natural number that an unsigned integer numeral denotes. -/
def nat? (n : Numeral) : Option Nat :=
  if n.integer ∧ !n.negative then some n.mantissa else none

@[simp] theorem nat?_ofNat (n : Nat) : (ofNat n).nat? = some n := by
  simp [nat?, ofNat]

/-! ## Digits -/

/-- Reads digits on into a mantissa while there is room, and tells which digits are left over. -/
def takeIn (mantissa : Nat) : List Char → Nat × List Char
  | [] => (mantissa, [])
  | c :: rest =>
    let next := 10 * mantissa + (c.toNat - 48)
    if next < UInt64.size then takeIn next rest else (mantissa, c :: rest)

/-- The numeral of the digits before the point, and of the decimals and the exponent where they
were written. -/
def ofDigits (negative : Bool) (whole : List Char) (decimals : Option (List Char))
    (exponent : Option Int) : Numeral :=
  let (mantissa, excess) := takeIn 0 whole
  let places := decimals.getD []
  let (mantissa, dropped) := takeIn mantissa places
  { negative, mantissa
    exponent := exponent.getD 0 + excess.length + dropped.length - places.length
    integer := decimals.isNone && exponent.isNone && excess.isEmpty }

/-! ## Range -/

/-- The nearest number of 53 significant bits; a tie goes to the even one. -/
def nearestDouble (n : Nat) : Nat :=
  let unit := Nat.pow 2 (n.log2 - 52)
  let kept := n / unit
  let lost := 2 * (n % unit)
  if unit < lost ∨ (lost = unit ∧ kept % 2 = 1) then (kept + 1) * unit else kept * unit

/-- The least magnitude that no double is nearest to: half a unit above the greatest double. -/
def overflow : Nat :=
  Nat.pow 2 1024 - Nat.pow 2 970

/-- The greatest power of ten that is a double. -/
def maxPower : Int :=
  308

/-- Whether the double that the numeral stands for is finite. Powers of ten below one never lead
out of the range. -/
def isFinite (n : Numeral) : Bool :=
  if n.mantissa = 0 ∨ n.exponent < 0 then true
  else if maxPower < n.exponent then false
  else decide (nearestDouble n.mantissa * nearestDouble (Nat.pow 10 n.exponent.toNat) < overflow)

end Numeral

end TokenBridge

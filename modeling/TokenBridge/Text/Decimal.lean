/-!
# Decimal numerals

Unsigned numerals below a limit, with an optional leading plus sign, and the reason why a text is
none. Digits are the ten ASCII ones.
-/

namespace TokenBridge.Text.Decimal

/-- Why a text is no numeral. -/
inductive Fault where
  | empty
  | digit
  | tooLarge
deriving DecidableEq, Repr

def Fault.message : Fault → String
  | .empty => "cannot parse integer from empty string"
  | .digit => "invalid digit found in string"
  | .tooLarge => "number too large to fit in target type"

/-- The digits of a number, without leading zeros. -/
def digits (n : Nat) : List Char :=
  Nat.toDigits 10 n

/-- Reads on from the value so far. A bad digit and an excess are reported where they occur. -/
def readFrom (limit : Nat) : Nat → List Char → Except Fault Nat
  | value, [] => .ok value
  | value, c :: rest =>
    if c.isDigit then
      let value := 10 * value + (c.toNat - 48)
      if value < limit then readFrom limit value rest else .error .tooLarge
    else .error .digit

/-- The number below `limit` that a numeral stands for. -/
def read (limit : Nat) : List Char → Except Fault Nat
  | [] => .error .empty
  | ['+'] => .error .digit
  | '+' :: rest => readFrom limit 0 rest
  | text => readFrom limit 0 text

end TokenBridge.Text.Decimal

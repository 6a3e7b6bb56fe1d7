/-!
# Hexadecimal text

Bytes as pairs of hexadecimal digits. Writing uses lower-case digits; reading takes either case and
says what is wrong with a text that spells no bytes.
-/

namespace TokenBridge.Text.Hex

/-- What keeps a text from being hexadecimal. Positions count bytes from zero. -/
inductive Fault where
  | oddLength
  | digit (byte : UInt8) (position : Nat)
deriving DecidableEq, Repr

/-- The value of a hexadecimal digit of either case. -/
def digit? (c : Char) : Option Nat :=
  let n := c.toNat
  if 48 ≤ n ∧ n ≤ 57 then some (n - 48)
  else if 97 ≤ n ∧ n ≤ 102 then some (n - 87)
  else if 65 ≤ n ∧ n ≤ 70 then some (n - 55)
  else none

/-- The number that some digits spell, most significant first. -/
def number? (digits : List Char) : Option Nat :=
  digits.foldlM (fun n c => (digit? c).map (16 * n + ·)) 0

def encode : List UInt8 → List Char
  | [] => []
  | byte :: rest =>
    Nat.digitChar (byte.toNat / 16) :: Nat.digitChar (byte.toNat % 16) :: encode rest

/-- The digit at `position`, or the fault there. -/
def digitAt (byte : UInt8) (position : Nat) : Except Fault Nat :=
  match digit? (Char.ofNat byte.toNat) with
  | some value => .ok value
  | none => .error (.digit byte position)

/-- Pairs of digits from `position` on; the first offending byte is the fault. -/
def decodeFrom : Nat → List UInt8 → Except Fault (List UInt8)
  | position, high :: low :: rest => do
    let h ← digitAt high position
    let l ← digitAt low (position + 1)
    let bytes ← decodeFrom (position + 2) rest
    return UInt8.ofNat (16 * h + l) :: bytes
  | _, [_] => .error .oddLength
  | _, [] => .ok []

/-- The bytes that a text spells. An odd length is found before any bad digit. -/
def decode (text : List UInt8) : Except Fault (List UInt8) :=
  if text.length % 2 = 1 then .error .oddLength else decodeFrom 0 text

end TokenBridge.Text.Hex

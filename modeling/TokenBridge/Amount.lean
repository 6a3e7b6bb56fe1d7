import TokenBridge.Json.Codec
import TokenBridge.Text.Decimal
import TokenBridge.Text.Hex
import TokenBridge.Word

/-!
# Amounts

Quantities of 256 bits. Sums and differences that leave the range do not exist.
-/

namespace TokenBridge

/-- A quantity below `2 ^ 256`. -/
structure Amount where
  toNat : Nat
  isLt : toNat < Nat.pow 256 32
deriving DecidableEq, Repr

namespace Amount

@[ext] theorem ext {a b : Amount} (h : a.toNat = b.toNat) : a = b := by
  cases a
  cases b
  simp_all

def zero : Amount :=
  ⟨0, by decide⟩

instance : Inhabited Amount :=
  ⟨zero⟩

def ofNat? (n : Nat) : Option Amount :=
  if h : n < Nat.pow 256 32 then some ⟨n, h⟩ else none

def add? (a b : Amount) : Option Amount :=
  ofNat? (a.toNat + b.toNat)

def sub? (a b : Amount) : Option Amount :=
  if b.toNat ≤ a.toNat then some ⟨a.toNat - b.toNat, by have := a.isLt; omega⟩ else none

def word (a : Amount) : Word 32 :=
  ⟨a.toNat, a.isLt⟩

def text (a : Amount) : String :=
  String.ofList (Text.Decimal.digits a.toNat)

/-- The hexadecimal form: `0x` and the digits without leading zeros. -/
def hexChars (a : Amount) : List Char :=
  '0' :: 'x' :: Nat.toDigits 16 a.toNat

/-- The blank characters that may stand between digits. -/
def isGap (c : Char) : Bool :=
  c == ' ' || c == '\t' || c == '\n' || c == '\r'

/-- The digits that are read of a text. They go in pairs, except that a first one stands alone if
the text, with its blanks, has an odd length; a last one without its partner is passed over. -/
def pairedDigits (s : List Char) : List Char :=
  let digits := s.filter fun c => !isGap c
  let padded := if s.length % 2 = 1 then '0' :: digits else digits
  padded.take (padded.length / 2 * 2)

/-- The quantity of one to sixty-four characters after an optional `0x`, hexadecimal digits with
blanks between them. -/
def ofHex? (s : List Char) : Option Amount :=
  let body := match s with
    | '0' :: 'x' :: rest => rest
    | s => s
  if body.isEmpty || decide (64 < body.length) then none
  else if body.any fun c => !isGap c && (Text.Hex.digit? c).isNone then none
  else (Text.Hex.number? (pairedDigits body)).bind ofNat?

instance : JsonForm Amount where
  toJson a := .text (String.ofList a.hexChars)
  ofJson? value := value.text?.bind fun s => ofHex? s.toList

end Amount

end TokenBridge

import TokenBridge.Json.Codec
import TokenBridge.Malformed

/-!
# Addresses as text

Reading takes an optional `0x` or `0X` and then exactly forty hexadecimal digits of either case.
-/

namespace TokenBridge.Address

open Text

variable {party : Party}

/-- A text without a leading `0x` or `0X`. -/
def stripMark : List Char → List Char
  | '0' :: 'x' :: rest => rest
  | '0' :: 'X' :: rest => rest
  | s => s

/-- The address of exactly twenty bytes. -/
def ofBytes (bytes : List UInt8) : Except Malformed (Address party) :=
  match Word.ofBytes? bytes with
  | some word => .ok ⟨word⟩
  | none => .error (.length 20 bytes.length)

def parse (s : List Char) : Except Malformed (Address party) :=
  match Hex.decode (utf8 (stripMark s)) with
  | .ok bytes => ofBytes bytes
  | .error fault => .error (.hex fault)

/-- Refuses the address that names nobody. -/
def requireNonZero (a : Address party) : Except Malformed Unit :=
  if a.isZero then .error .emptyAddress else .ok ()

instance : JsonForm (Address party) where
  toJson a := .text a.text
  ofJson? value := value.text?.bind fun s => (parse s.toList).toOption

end TokenBridge.Address

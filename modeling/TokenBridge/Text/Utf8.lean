/-!
# Byte form of a text

The UTF-8 bytes of a text, as the list that hashes and length limits read. Half of a surrogate pair
is no character, but its number has three bytes by the same rule.
-/

namespace TokenBridge.Text

def utf8 (s : List Char) : List UInt8 :=
  s.flatMap String.utf8EncodeChar

@[simp] theorem utf8_nil : utf8 [] = [] := rfl

theorem utf8_append (s t : List Char) : utf8 (s ++ t) = utf8 s ++ utf8 t := by
  simp [utf8]

/-- The bytes spell one text only. -/
theorem utf8_injective {s t : List Char} (h : utf8 s = utf8 t) : s = t := by
  apply String.ofList_injective
  rw [← String.toByteArray_inj, String.toByteArray_ofList, String.toByteArray_ofList]
  exact congrArg List.toByteArray h

/-- Whether a code point is half of a surrogate pair. -/
def isHalf (code : Nat) : Bool :=
  decide (0xd800 ≤ code) && decide (code < 0xe000)

/-- The bytes of a code point, which may be half of a surrogate pair. -/
def codeBytes (code : Nat) : List UInt8 :=
  if isHalf code then
    [UInt8.ofNat (0xe0 + code / 0x1000), UInt8.ofNat (0x80 + code / 0x40 % 0x40),
      UInt8.ofNat (0x80 + code % 0x40)]
  else String.utf8EncodeChar (Char.ofNat code)

end TokenBridge.Text

import TokenBridge.Text.Visible

/-!
# Quoted text

A text or a single character between quotes, with escapes for what would not show. Messages use
this form for what the sender wrote.
-/

namespace TokenBridge.Text

/-- The escape of a code point by its hexadecimal digits in braces. -/
def codeEscape (c : Char) : List Char :=
  ['\\', 'u', '\x7b'] ++ Nat.toDigits 16 c.toNat ++ ['\x7d']

/-- One character inside quotes. Only the quote in use is escaped. -/
def quotedChar (quote c : Char) : List Char :=
  if c = '\x00' then ['\\', '0']
  else if c = '\t' then ['\\', 't']
  else if c = '\n' then ['\\', 'n']
  else if c = '\r' then ['\\', 'r']
  else if c = '\\' ∨ c = quote then ['\\', c]
  else if isPlain c then [c]
  else codeEscape c

/-- A text between quotes of the given kind. -/
def quoted (quote : Char) (s : List Char) : List Char :=
  quote :: s.flatMap (quotedChar quote) ++ [quote]

end TokenBridge.Text

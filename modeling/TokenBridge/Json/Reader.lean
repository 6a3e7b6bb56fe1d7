import TokenBridge.Json.Value
import TokenBridge.Text.Hex

/-!
# Reading JSON text

The strict grammar: no comments, no trailing commas, no leading zeros, no plus signs, only the four
blank characters of the format between tokens. A control character may stand bare in a string, but
the literal remembers it. The reader is a recursive descent over the characters; `Json.parse?`
starts it with fuel that always suffices.
-/

namespace TokenBridge.Json

/-! ## Tokens -/

def isSpace (c : Char) : Bool :=
  c == ' ' || c == '\n' || c == '\t' || c == '\r'

def skip (s : List Char) : List Char :=
  s.dropWhile isSpace

/-- The number of four hexadecimal digits. -/
def unit? (a b c d : Char) : Option Nat :=
  Text.Hex.number? [a, b, c, d]

/-- The character of a one-letter escape. -/
def escape? : Char → Option Char
  | '"' => some '"'
  | '\\' => some '\\'
  | '/' => some '/'
  | 'b' => some '\x08'
  | 'f' => some '\x0c'
  | 'n' => some '\n'
  | 'r' => some '\r'
  | 't' => some '\t'
  | _ => none

/-- The codes of a string up to its closing quote, whether a control character stands bare among
them, and the text after the quote. An escape in digits gives the code it names, which may be half
of a surrogate pair. -/
def codes? : List Char → Option (List Nat × Bool × List Char)
  | [] => none
  | '"' :: rest => some ([], false, rest)
  | '\\' :: 'u' :: a :: b :: c :: d :: rest => do
    let code ← unit? a b c d
    let (codes, bare, rest) ← codes? rest
    some (code :: codes, bare, rest)
  | '\\' :: c :: rest => do
    let c ← escape? c
    let (codes, bare, rest) ← codes? rest
    some (c.toNat :: codes, bare, rest)
  | c :: rest =>
    if c = '\\' then none
    else do
      let (codes, bare, rest) ← codes? rest
      some (c.toNat :: codes, bare || decide (c.toNat < 0x20), rest)

/-- Joins the halves of surrogate pairs that stand side by side. -/
def joinHalves : List Nat → List Nat
  | high :: low :: rest =>
    if (0xd800 ≤ high ∧ high < 0xdc00) ∧ 0xdc00 ≤ low ∧ low < 0xe000 then
      (0x10000 + (high - 0xd800) * 0x400 + (low - 0xdc00)) :: joinHalves rest
    else high :: joinHalves (low :: rest)
  | codes => codes

def literalOf (codes : List Nat) (bare : Bool) : Literal :=
  if bare then .bare (codes.flatMap Text.codeBytes)
  else if codes.any Text.isHalf then .halves (codes.flatMap Text.codeBytes)
  else .text (String.ofList (codes.map Char.ofNat))

/-- A string after its opening quote. -/
def string? (s : List Char) : Option (Literal × List Char) :=
  (codes? s).map fun (codes, bare, rest) => (literalOf (joinHalves codes) bare, rest)

def digitsValue (digits : List Char) : Nat :=
  digits.foldl (fun n c => 10 * n + (c.toNat - 48)) 0

/-- The longest run of digits at the front, and the text after it. -/
def spanDigits (s : List Char) : List Char × List Char :=
  (s.takeWhile Char.isDigit, s.dropWhile Char.isDigit)

/-- The digits before any fraction: a single zero, or a run that starts with no zero. -/
def wholeDigits? (s : List Char) : Option (List Char × List Char) :=
  match spanDigits s with
  | ([], _) => none
  | ('0' :: _ :: _, _) => none
  | split => some split

/-- The digits of a fraction, which may be missing but not empty. -/
def fractionDigits? : List Char → Option (Option (List Char) × List Char)
  | '.' :: rest =>
    match spanDigits rest with
    | ([], _) => none
    | (digits, rest) => some (some digits, rest)
  | s => some (none, s)

/-- The number of an exponent, which may be missing but not empty. -/
def exponent? : List Char → Option (Option Int × List Char)
  | c :: rest =>
    if c = 'e' ∨ c = 'E' then
      let (negative, rest) := match rest with
        | '-' :: rest => (true, rest)
        | '+' :: rest => (false, rest)
        | rest => (false, rest)
      match spanDigits rest with
      | ([], _) => none
      | (digits, rest) =>
        let n : Int := digitsValue digits
        some (some (if negative then -n else n), rest)
    else some (none, c :: rest)
  | [] => some (none, [])

def numeral? (s : List Char) : Option (Numeral × List Char) := do
  let (negative, s) := match s with
    | '-' :: rest => (true, rest)
    | s => (false, s)
  let (whole, s) ← wholeDigits? s
  let (fraction, s) ← fractionDigits? s
  let (exponent, s) ← exponent? s
  some (.ofDigits negative whole fraction exponent, s)

/-! ## Values -/

mutual

/-- The value at the front of a text, after blanks. -/
def value? : Nat → List Char → Option (Json × List Char)
  | 0, _ => none
  | fuel + 1, s =>
    match skip s with
    | 'n' :: 'u' :: 'l' :: 'l' :: rest => some (.null, rest)
    | 't' :: 'r' :: 'u' :: 'e' :: rest => some (.bool true, rest)
    | 'f' :: 'a' :: 'l' :: 's' :: 'e' :: rest => some (.bool false, rest)
    | '"' :: rest => (string? rest).map fun (s, rest) => (.str s, rest)
    | '[' :: rest =>
      match skip rest with
      | ']' :: rest => some (.arr [], rest)
      | rest => (items? fuel rest).map fun (items, rest) => (.arr items, rest)
    | '\x7b' :: rest =>
      match skip rest with
      | '\x7d' :: rest => some (.obj [], rest)
      | rest => (fields? fuel rest).map fun (fields, rest) => (.obj fields, rest)
    | s => (numeral? s).map fun (n, rest) => (.num n, rest)

/-- One or more values separated by commas, up to the closing bracket. -/
def items? : Nat → List Char → Option (List Json × List Char)
  | 0, _ => none
  | fuel + 1, s =>
    match value? fuel s with
    | none => none
    | some (item, rest) =>
      match skip rest with
      | ']' :: rest => some ([item], rest)
      | ',' :: rest => (items? fuel rest).map fun (items, rest) => (item :: items, rest)
      | _ => none

/-- One or more fields separated by commas, up to the closing brace. -/
def fields? : Nat → List Char → Option (List (Literal × Json) × List Char)
  | 0, _ => none
  | fuel + 1, s =>
    match skip s with
    | '"' :: rest =>
      match string? rest with
      | none => none
      | some (name, rest) =>
        match skip rest with
        | ':' :: rest =>
          match value? fuel rest with
          | none => none
          | some (value, rest) =>
            match skip rest with
            | '\x7d' :: rest => some ([(name, value)], rest)
            | ',' :: rest =>
              (fields? fuel rest).map fun (fields, rest) => ((name, value) :: fields, rest)
            | _ => none
        | _ => none
    | _ => none

end

/-- The value of a whole text: one value between blanks. Each level of the descent takes a
character within two steps, so twice the length is fuel enough. -/
def parse? (s : List Char) : Option Json :=
  match value? (2 * s.length + 2) s with
  | some (value, rest) => if skip rest = [] then some value else none
  | none => none

end TokenBridge.Json

import TokenBridge.Json.Value

/-!
# Writing JSON text

Two layouts of a value: `compact` on one line without blanks, and `pretty` with every list element
and object field on its own line, indented by two blanks a level. Both escape quotes, backslashes
and characters below the blank, and nothing else.
-/

namespace TokenBridge.Json

def escaped (c : Char) : List Char :=
  if c = '"' then ['\\', '"']
  else if c = '\\' then ['\\', '\\']
  else if c = '\x08' then ['\\', 'b']
  else if c = '\x0c' then ['\\', 'f']
  else if c = '\n' then ['\\', 'n']
  else if c = '\r' then ['\\', 'r']
  else if c = '\t' then ['\\', 't']
  else if c.toNat < 0x20 then
    ['\\', 'u', '0', '0', Nat.digitChar (c.toNat / 16), Nat.digitChar (c.toNat % 16)]
  else [c]

def literal (s : List Char) : List Char :=
  '"' :: s.flatMap escaped ++ ['"']

/-- A string value as a literal; one that is no text has the literal of a lone surrogate. -/
def stringText : Literal → List Char
  | .text s => literal s.toList
  | _ => "\"\\ud800\"".toList

/-- A number, with an exponent where it was not written as an integer. -/
def numeralText (n : Numeral) : List Char :=
  let sign := if n.negative then ['-'] else []
  let digits := Nat.toDigits 10 n.mantissa
  let exponent :=
    if n.integer then []
    else 'e' :: (if n.exponent < 0 then ['-'] else []) ++ Nat.toDigits 10 n.exponent.natAbs
  sign ++ digits ++ exponent

/-- A line break followed by the indentation of `depth` levels. -/
def newline (depth : Nat) : List Char :=
  '\n' :: List.replicate (2 * depth) ' '

mutual

/-- A value on one line. -/
def compact : Json → List Char
  | .null => ['n', 'u', 'l', 'l']
  | .bool true => ['t', 'r', 'u', 'e']
  | .bool false => ['f', 'a', 'l', 's', 'e']
  | .num n => numeralText n
  | .str s => stringText s
  | .arr [] => ['[', ']']
  | .arr (item :: rest) => '[' :: compact item ++ compactItems rest
  | .obj [] => ['\x7b', '\x7d']
  | .obj ((name, value) :: rest) =>
    '\x7b' :: stringText name ++ ':' :: compact value ++ compactFields rest

/-- The elements after the first, up to the closing bracket. -/
def compactItems : List Json → List Char
  | [] => [']']
  | item :: rest => ',' :: compact item ++ compactItems rest

/-- The fields after the first, up to the closing brace. -/
def compactFields : List (Literal × Json) → List Char
  | [] => ['\x7d']
  | (name, value) :: rest =>
    ',' :: stringText name ++ ':' :: compact value ++ compactFields rest

end

mutual

/-- A value that starts `depth` levels deep, over several lines. -/
def pretty (depth : Nat) : Json → List Char
  | .null => ['n', 'u', 'l', 'l']
  | .bool true => ['t', 'r', 'u', 'e']
  | .bool false => ['f', 'a', 'l', 's', 'e']
  | .num n => numeralText n
  | .str s => stringText s
  | .arr [] => ['[', ']']
  | .arr (item :: rest) =>
    '[' :: newline (depth + 1) ++ pretty (depth + 1) item ++ prettyItems depth rest
  | .obj [] => ['\x7b', '\x7d']
  | .obj ((name, value) :: rest) =>
    '\x7b' :: newline (depth + 1) ++ stringText name ++ ':' :: ' ' ::
      pretty (depth + 1) value ++ prettyFields depth rest

def prettyItems (depth : Nat) : List Json → List Char
  | [] => newline depth ++ [']']
  | item :: rest =>
    ',' :: newline (depth + 1) ++ pretty (depth + 1) item ++ prettyItems depth rest

def prettyFields (depth : Nat) : List (Literal × Json) → List Char
  | [] => newline depth ++ ['\x7d']
  | (name, value) :: rest =>
    ',' :: newline (depth + 1) ++ stringText name ++ ':' :: ' ' ::
      pretty (depth + 1) value ++ prettyFields depth rest

end

end TokenBridge.Json

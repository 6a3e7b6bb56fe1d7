import TokenBridge.Text.Blank
import TokenBridge.Text.Hex

/-!
# Characters of a pattern

How the characters of a pattern are read depends on its mode, which a pattern can change as it goes.
What follows a backslash is a character, a family of characters, or a place between characters.
-/

namespace TokenBridge.Pattern

/-! ## Modes -/

/-- How a part of a pattern is read. -/
structure Mode where
  /-- Blanks and comments stand for nothing. -/
  spaced : Bool := false
  /-- What is matched is a character, not a byte. -/
  unicode : Bool := true

/-- A text after its leading blanks and comments. A comment starts with a hash and ends with its
line. -/
def skip (inComment : Bool) : List Char → List Char
  | [] => []
  | c :: rest =>
    if inComment then skip (c != '\n') rest
    else if Text.isBlank c then skip false rest
    else if c == '#' then skip true rest
    else c :: rest

namespace Mode

/-- A text from the next character on that stands for something. -/
def skip (m : Mode) (s : List Char) : List Char :=
  if m.spaced then Pattern.skip false s else s

/-- The mode after a change, which names what is turned on and, after a dash, what is turned off. -/
def change (m : Mode) (letters : List Char) : Mode :=
  let on := letters.takeWhile (· != '-')
  let off := letters.dropWhile (· != '-')
  { spaced := (m.spaced || on.contains 'x') && !off.contains 'x'
    unicode := (m.unicode || on.contains 'u') && !off.contains 'u' }

end Mode

/-! ## Escapes -/

/-- What a character stands for, alone or after a backslash. -/
inductive Sign where
  /-- A character. A byte is a character that two digits name. -/
  | char (c : Char) (byte : Bool)
  /-- The digits, the blanks or the characters of words, or all others. -/
  | family (negated : Bool)
  /-- The characters of a category. -/
  | category
  /-- The start or the end of the text. -/
  | textEdge
  /-- A place at the edge of a word, or one that is none. -/
  | wordEdge

namespace Sign

/-- Whether the mode has the sign. Among bytes there are no categories, and nothing may match half a
character. The edges of words are told for bytes only. -/
def allowed (m : Mode) : Sign → Bool
  | .char c byte => m.unicode || !byte || decide (c.toNat < 0x80)
  | .family negated => m.unicode || !negated
  | .category => m.unicode
  | .textEdge => true
  | .wordEdge => !m.unicode

/-- Whether the sign can be a member of a set. A set of bytes has the ASCII characters only. -/
def isMember (m : Mode) : Sign → Bool
  | .char c _ => m.unicode || decide (c.toNat < 0x80)
  | .family _ | .category => true
  | .textEdge | .wordEdge => false

end Sign

/-- The next `count` characters, and the text after them. -/
def take? (m : Mode) : Nat → List Char → Option (List Char × List Char)
  | 0, s => some ([], s)
  | count + 1, s =>
    match m.skip s with
    | [] => none
    | c :: rest => (take? m count rest).map fun (cs, rest) => (c :: cs, rest)

/-- The character that some hexadecimal digits name. -/
def numbered? (m : Mode) (count : Nat) (s : List Char) : Option (Sign × List Char) := do
  let (digits, rest) ← take? m count s
  let n ← Text.Hex.number? digits
  if n.isValidChar then some (.char (Char.ofNat n) (count == 2), rest) else none

/-- A category by its letter: control characters and others, letters, marks, numbers, punctuation,
symbols, separators. -/
def category? (m : Mode) (s : List Char) : Option (Sign × List Char) :=
  match m.skip s with
  | c :: rest => if "clmnpsz".toList.contains c.toLower then some (.category, rest) else none
  | [] => none

/-- What follows a backslash, and the text after it. Letters and digits without a meaning are
refused, other ASCII characters stand for themselves. -/
def escaped? (m : Mode) : List Char → Option (Sign × List Char)
  | [] => none
  | c :: rest =>
    match c with
    | 'd' | 's' | 'w' => some (.family false, rest)
    | 'D' | 'S' | 'W' => some (.family true, rest)
    | 'p' | 'P' => category? m rest
    | 'x' => numbered? m 2 rest
    | 'u' => numbered? m 4 rest
    | 'U' => numbered? m 8 rest
    | 'A' | 'z' => some (.textEdge, rest)
    | 'b' | 'B' | '<' | '>' => some (.wordEdge, rest)
    | 'a' => some (.char '\x07' false, rest)
    | 'f' => some (.char '\x0c' false, rest)
    | 't' => some (.char '\t' false, rest)
    | 'n' => some (.char '\n' false, rest)
    | 'r' => some (.char '\r' false, rest)
    | 'v' => some (.char '\x0b' false, rest)
    | c => if c.toNat < 0x80 ∧ ¬ c.isAlphanum then some (.char c false, rest) else none

/-- An escape that the mode has. -/
def escape? (m : Mode) (s : List Char) : Option (Sign × List Char) :=
  (escaped? m s).filter fun (sign, _) => sign.allowed m

end TokenBridge.Pattern

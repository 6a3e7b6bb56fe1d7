import TokenBridge.Pattern.Escape

/-!
# Sets of characters in a pattern

A set stands between brackets. Its members are characters, ranges, families and other sets, and sets
can be combined by operators of two equal characters. Only the form of a set is read here, with the
depth to which its parts are nested.
-/

namespace TokenBridge.Pattern

/-- The depth of parts that stand side by side, by the depths of the parts. A part alone adds no
level. -/
def sideBySide : List Nat → Nat
  | [] => 0
  | [depth] => depth
  | depths => depths.foldl max 0 + 1

/-- A set that is not closed yet. -/
structure OpenSet where
  /-- The depth of what stands left of the last operator. -/
  left : Option Nat := none
  /-- The depths of the members since then. -/
  members : List Nat := []
  /-- No member but dashes has been read, and no operator. -/
  fresh : Bool := true

namespace OpenSet

def add (s : OpenSet) (depth : Nat) : OpenSet :=
  { s with members := depth :: s.members, fresh := false }

def depth (s : OpenSet) : Nat :=
  match s.left with
  | none => sideBySide s.members
  | some left => max left (sideBySide s.members) + 1

/-- The set after an operator. -/
def combine (s : OpenSet) : OpenSet :=
  { left := some s.depth, fresh := false }

end OpenSet

def families : List String :=
  ["alnum", "alpha", "ascii", "blank", "cntrl", "digit", "graph", "lower", "print", "punct",
    "space", "upper", "word", "xdigit"]

/-- A named family after its opening bracket: whether it is negated, and the text after it. -/
def named? : List Char → Option (Bool × List Char)
  | ':' :: rest =>
    let (negated, rest) := match rest with
      | '^' :: rest => (true, rest)
      | rest => (false, rest)
    match rest.dropWhile (· != ':') with
    | ':' :: ']' :: after =>
      if families.contains (String.ofList (rest.takeWhile (· != ':'))) then some (negated, after)
      else none
    | _ => none
  | _ => none

/-- The text after the opening bracket of a set and the sign of negation. All but some bytes are no
set of characters. -/
def begun? (m : Mode) (s : List Char) : Option (List Char) :=
  match m.skip s with
  | '^' :: rest => if m.unicode then some rest else none
  | rest => some rest

/-- A character or family of a set, and the text after it. -/
def member? (m : Mode) (s : List Char) : Option (Sign × List Char) :=
  (match s with
    | '\\' :: rest => escape? m rest
    | c :: rest => some (.char c false, rest)
    | [] => none).filter fun (sign, _) => sign.isMember m

/-- The character that tells whether a dash makes a range. Of a comment only the hash is passed
over. -/
def ahead? (m : Mode) (s : List Char) : Option Char :=
  if m.spaced then
    match s.dropWhile Text.isBlank with
    | '#' :: rest => (rest.dropWhile Text.isBlank).head?
    | rest => rest.head?
  else s.head?

/-- The text after a character, a family or a range. A dash before a bracket or another dash makes
no range. The ends of a range are characters in order. -/
def range? (m : Mode) (s : List Char) : Option (List Char) := do
  let (low, rest) ← member? m s
  match m.skip rest with
  | '-' :: after =>
    if ahead? m after = some ']' ∨ ahead? m after = some '-' then some ('-' :: after)
    else
      match low, ← member? m (m.skip after) with
      | .char low _, (.char high _, rest) => if low ≤ high then some rest else none
      | _, _ => none
  | rest => some rest

/-- Reads on in a set inside other sets: its depth, and the text after it. A bracket that closes
stands for itself at the start of a set, and so do dashes. -/
def readSet (m : Mode) : Nat → OpenSet → List OpenSet → List Char → Option (Nat × List Char)
  | 0, _, _, _ => none
  | fuel + 1, s, outer, text =>
    match m.skip text with
    | [] => none
    | ']' :: rest =>
      if s.fresh && s.members.isEmpty then readSet m fuel (s.add 0) outer rest
      else
        match outer with
        | [] => some (s.depth + 1, rest)
        | t :: outer => readSet m fuel (t.add (s.depth + 1)) outer rest
    | '[' :: rest =>
      match named? rest with
      | some (negated, rest) =>
        if negated && !m.unicode then none else readSet m fuel (s.add 0) outer rest
      | none => do readSet m fuel {} (s :: outer) (← begun? m rest)
    | a :: b :: rest =>
      if s.fresh && a == '-' then
        readSet m fuel { s with members := 0 :: s.members } outer (b :: rest)
      else if a == b && "&-~".toList.contains a then readSet m fuel s.combine outer rest
      else do readSet m fuel (s.add 0) outer (← range? m (a :: b :: rest))
    | [_] => none

/-- A set after its opening bracket: its depth, and the text after it. Each step takes a character,
so the length is fuel enough. -/
def set? (m : Mode) (s : List Char) : Option (Nat × List Char) := do
  readSet m (s.length + 1) {} [] (← begun? m s)

end TokenBridge.Pattern

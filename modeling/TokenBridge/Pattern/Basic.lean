import TokenBridge.Pattern.Bracket
import TokenBridge.Text.Alphanumeric

/-!
# Patterns

Which texts are patterns for other texts. A pattern is made of characters and sets of characters,
side by side, as alternatives, in groups, and repeated. It is written without a closing brace, so
nothing that needs one is a pattern: a repetition with a count, or a category or a character in
braces.
-/

namespace TokenBridge.Pattern

/-! ## Groups -/

/-- What an opening parenthesis begins. -/
inductive Opening where
  /-- A group, which may have a name. -/
  | group (name : Option (List Char)) (mode : Mode)
  /-- Another mode for the rest of the group around it. -/
  | change (mode : Mode)

/-- Whether a text can name a group. -/
def isName : List Char → Bool
  | [] => false
  | c :: rest =>
    (c == '_' || Text.isLetter c) &&
      rest.all fun c => "_.[]".toList.contains c || Text.isAlphanumeric c

/-- Whether a text says a change of mode: letters without repetition, and at most one dash, which is
not the last. -/
def isChange (letters : List Char) : Bool :=
  (letters.all fun c => "imsURux-".toList.contains c) && decide letters.Nodup &&
    letters.getLast? != some '-'

/-- The name of a group after its opening angle, and the text after it. -/
def name? (s : List Char) : Option (List Char × List Char) :=
  let name := s.takeWhile (· != '>')
  match s.dropWhile (· != '>') with
  | '>' :: rest => if isName name then some (name, rest) else none
  | _ => none

/-- What an opening parenthesis begins, and the text after it. -/
def opening? (m : Mode) (s : List Char) : Option (Opening × List Char) :=
  match m.skip s with
  | '?' :: 'P' :: '<' :: rest | '?' :: '<' :: rest =>
    (name? rest).map fun (name, rest) => (.group (some name) m, rest)
  | '?' :: rest =>
    let isEnd c := c == ':' || c == ')'
    let letters := rest.takeWhile fun c => !isEnd c
    if isChange letters then
      match rest.dropWhile fun c => !isEnd c with
      | ':' :: rest => some (.group none (m.change letters), rest)
      | ')' :: rest => if letters.isEmpty then none else some (.change (m.change letters), rest)
      | _ => none
    else none
  | rest => some (.group none m, rest)

/-! ## Sequences and alternatives -/

structure Piece where
  depth : Nat := 0
  /-- Something that can be repeated. -/
  repeatable : Bool := true

/-- A group that is not closed yet. The whole pattern is one as well. -/
structure OpenGroup where
  /-- The mode from here on. -/
  mode : Mode := {}
  /-- The depths of the alternatives before the present one. -/
  alternatives : List Nat := []
  /-- The pieces of the present alternative, the last one first. -/
  pieces : List Piece := []

namespace OpenGroup

def add (g : OpenGroup) (piece : Piece) : OpenGroup :=
  { g with pieces := piece :: g.pieces }

/-- The depth of the present alternative. -/
def present (g : OpenGroup) : Nat :=
  sideBySide (g.pieces.map Piece.depth)

def alternate (g : OpenGroup) : OpenGroup :=
  { g with alternatives := g.present :: g.alternatives, pieces := [] }

def depth (g : OpenGroup) : Nat :=
  sideBySide (g.present :: g.alternatives)

/-- Repeats the last piece, if there is one that can be repeated. -/
def again? (g : OpenGroup) : Option OpenGroup :=
  match g.pieces with
  | ⟨depth, true⟩ :: pieces => some { g with pieces := ⟨depth + 1, true⟩ :: pieces }
  | _ => none

end OpenGroup

/-- Reads on in a group inside other groups, where some names are taken: the depth of the whole. A
question mark right after a repetition belongs to it. -/
def readGroup : Nat → OpenGroup → List OpenGroup → List (List Char) → List Char → Option Nat
  | 0, _, _, _, _ => none
  | fuel + 1, g, outer, names, text =>
    match g.mode.skip text with
    | [] => if outer.isEmpty then some g.depth else none
    | '(' :: rest =>
      match opening? g.mode rest with
      | some (.change mode, rest) =>
        readGroup fuel { g.add { repeatable := false } with mode } outer names rest
      | some (.group none mode, rest) => readGroup fuel { mode } (g :: outer) names rest
      | some (.group (some name) mode, rest) =>
        if names.contains name then none
        else readGroup fuel { mode } (g :: outer) (name :: names) rest
      | none => none
    | ')' :: rest =>
      match outer with
      | [] => none
      | h :: outer => readGroup fuel (h.add { depth := g.depth + 1 }) outer names rest
    | '|' :: rest => readGroup fuel g.alternate outer names rest
    | '[' :: rest => do
      let (depth, rest) ← set? g.mode rest
      readGroup fuel (g.add { depth }) outer names rest
    | '\\' :: rest => do
      let (_, rest) ← escape? g.mode rest
      readGroup fuel (g.add {}) outer names rest
    | '\x7b' :: _ => none
    | c :: rest =>
      if c == '?' || c == '*' || c == '+' then do
        let rest := match rest with
          | '?' :: rest => rest
          | rest => rest
        readGroup fuel (← g.again?) outer names rest
      else if c == '.' && !g.mode.unicode then none
      else readGroup fuel (g.add {}) outer names rest

def maxDepth : Nat := 250

/-- The depth of a pattern. Each step takes a character, so the length is fuel enough. -/
def depth? (s : List Char) : Option Nat :=
  readGroup (s.length + 1) {} [] [] s

def isPattern (s : List Char) : Bool :=
  (depth? s).any (· ≤ maxDepth)

end TokenBridge.Pattern

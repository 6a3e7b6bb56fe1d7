import TokenBridge.Pattern.Basic
import TokenBridge.Text.Decimal
import TokenBridge.Text.Number
import TokenBridge.Text.Utf8

/-!
# Log filters

Which events are logged is said by a list of items, separated by commas. An item is a level for all
events, or it names a target, a span in brackets, or both, and gives the level of their events after
an equals sign. A span can ask for fields in braces, with a number or a pattern for their values.

Places in an item are counted in bytes from its first character that is not blank, but its parts are
cut at these places from the whole item. So the parts of an indented item start too early, by the
bytes of its indentation.
-/

namespace TokenBridge.Logging

def levels : List String :=
  ["off", "error", "warn", "info", "debug", "trace"]

/-- Whether a text names a level, in letters of either case or by its number. -/
def isLevel (s : List Char) : Bool :=
  levels.contains ((String.ofList s).map Char.toLower) ||
    match Text.Decimal.read UInt64.size s with
    | .ok n => decide (n < levels.length)
    | .error _ => false

def startsTarget (c : Char) : Bool :=
  c == '-' || c == ':' || c == '_' || Text.isAlphanumeric c

/-! ## Parts of an item -/

def byteLength (s : List Char) : Nat :=
  (Text.utf8 s).length

/-- Splits a text after some bytes, which have to end with a character. -/
def splitBytes? : Nat → List Char → Option (List Char × List Char)
  | 0, s => some ([], s)
  | _, [] => none
  | count, c :: rest =>
    if c.utf8Size ≤ count then
      (splitBytes? (count - c.utf8Size) rest).map fun (front, rest) => (c :: front, rest)
    else none

/-- What is cut from an item at the place where its end `rest` starts. -/
def cutFrom? (item rest : List Char) : Option (List Char) :=
  let place := byteLength (item.dropWhile Text.isBlank) - byteLength rest
  (splitBytes? place item).map Prod.snd

/-- Whether a level can follow the equals sign of an item. It can be left out. -/
def isItemLevel (item level : List Char) : Bool :=
  (cutFrom? item level).any fun level => level.isEmpty || isLevel level

/-- Whether a text can ask for a field: its name, or its name, an equals sign and what it has to be.
A second equals sign ends that. -/
def isField (s : List Char) : Bool :=
  match s.dropWhile (· != '=') with
  | '=' :: rest =>
    let value := rest.takeWhile (· != '=')
    Text.isNumber value || Pattern.isPattern value
  | _ => true

/-- Whether the field at the start of `fields`, an end of the item, can be asked for. -/
def isItemField (item fields : List Char) : Bool :=
  let length := byteLength (fields.takeWhile (· != '\x7d'))
  length != 0 &&
    ((cutFrom? item fields).bind (splitBytes? length)).any fun (field, _) => isField field

/-! ## Items -/

/-- What follows a target or a span: nothing, or an equals sign and a level. -/
def isTail (item : List Char) : List Char → Bool
  | '=' :: level => isItemLevel item level
  | rest => rest.all Text.isBlank

/-- A span after its opening bracket, with what follows it. -/
def isSpan (item span : List Char) : Bool :=
  match span.dropWhile fun c => c != ']' && c != '\x7b' with
  | ']' :: rest => isTail item rest
  | '\x7b' :: fields =>
    isItemField item fields &&
      match fields.dropWhile (· != '\x7d') with
      | '\x7d' :: ']' :: rest => isTail item rest
      | _ => false
  | _ => false

/-- Whether an item can be understood. A target or a level reaches up to the first bracket or equals
sign; without either, what is no level is a target. -/
def isItem (item : List Char) : Bool :=
  match item.dropWhile Text.isBlank with
  | [] => false
  | '[' :: span => isSpan item span
  | c :: rest =>
    startsTarget c &&
      match rest.dropWhile fun c => c != '=' && c != '[' with
      | [] => true
      | '[' :: span => isSpan item span
      | tail => isTail item tail

/-- Whether every item of a filter can be understood. Empty items say nothing. -/
def isFilter (s : String) : Bool :=
  ((s.toList.splitOn ',').filter fun item => !item.isEmpty).all isItem

end TokenBridge.Logging

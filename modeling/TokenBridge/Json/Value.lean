import TokenBridge.Json.Numeral
import TokenBridge.Text.Utf8

/-!
# JSON values

A value keeps what its text said as far as a reader of typed data can tell: the order and
repetition of fields, whether a number was written as an integer, and what kind of string stood
between two quotes.

`sound` describes the values that may be held before their type is known: bounded nesting, texts
only, numbers within the range of a binary double. `skippable` describes those that may be passed
over.
-/

namespace TokenBridge

/-- What stands between two quotes. A string is a text unless an escape names half of a surrogate
pair, or a control character stands bare in it. The bytes of such a string can still be asked for;
with halves only it can also be passed over. -/
inductive Literal where
  | text (value : String)
  | halves (bytes : List UInt8)
  | bare (bytes : List UInt8)
deriving DecidableEq, Repr

namespace Literal

def text? : Literal → Option String
  | .text value => some value
  | _ => none

def bytes : Literal → List UInt8
  | .text value => Text.utf8 value.toList
  | .halves bytes => bytes
  | .bare bytes => bytes

/-- Whether no control character stands bare in a literal. -/
def isClean : Literal → Bool
  | .bare _ => false
  | _ => true

end Literal

inductive Json where
  | null
  | bool (value : Bool)
  | num (value : Numeral)
  | str (value : Literal)
  | arr (items : List Json)
  | obj (fields : List (Literal × Json))

namespace Json

def nat (n : Nat) : Json :=
  .num (.ofNat n)

def text (s : String) : Json :=
  .str (.text s)

def record (fields : List (String × Json)) : Json :=
  .obj (fields.map fun field => (.text field.1, field.2))

mutual

/-- Whether a value can be held untyped within `room` levels of nesting. -/
def sound (room : Nat) : Json → Bool
  | .null => true
  | .bool _ => true
  | .num n => n.isFinite
  | .str s => s.text?.isSome
  | .arr items => decide (0 < room) && soundItems (room - 1) items
  | .obj fields => decide (0 < room) && soundFields (room - 1) fields

def soundItems (room : Nat) : List Json → Bool
  | [] => true
  | item :: rest => sound room item && soundItems room rest

def soundFields (room : Nat) : List (Literal × Json) → Bool
  | [] => true
  | (name, value) :: rest => name.text?.isSome && sound room value && soundFields room rest

end

mutual

/-- Whether a value can be passed over: no control character stands bare in its strings. -/
def skippable : Json → Bool
  | .null => true
  | .bool _ => true
  | .num _ => true
  | .str s => s.isClean
  | .arr items => skippableItems items
  | .obj fields => skippableFields fields

def skippableItems : List Json → Bool
  | [] => true
  | item :: rest => skippable item && skippableItems rest

def skippableFields : List (Literal × Json) → Bool
  | [] => true
  | (name, value) :: rest => name.isClean && skippable value && skippableFields rest

end

end Json

end TokenBridge

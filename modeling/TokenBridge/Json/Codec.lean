import TokenBridge.Json.Value

/-!
# Typed JSON

A type with a JSON form has an encoder and a decoder. Structures are written as objects. They are
read from objects, in which unknown fields are passed over, or from lists that give the fields by
position. A field given twice is refused, and a missing one is refused unless it has a default.
-/

namespace TokenBridge

class JsonForm (α : Type) where
  toJson : α → Json
  ofJson? : Json → Option α

export JsonForm (toJson ofJson?)

namespace Json

/-- The fields of an object. Every name has to be a text, and an unknown field has to be one that
can be passed over. -/
def fieldsOf? (names : List String) : List (Literal × Json) → Option (List (String × Json))
  | [] => some []
  | (.text name, value) :: rest =>
    if names.contains name || value.skippable then
      (fieldsOf? names rest).map ((name, value) :: ·)
    else none
  | _ => none

/-- The fields of a structure with the given field names: those of an object, or the elements of a
list, which name them by position. The list may stop early. -/
def record? (names : List String) : Json → Option (List (String × Json))
  | .obj fields => fieldsOf? names fields
  | .arr items => if items.length ≤ names.length then some (names.zip items) else none
  | _ => none

/-- The values given for a field, in order. -/
def valuesOf (name : String) (fields : List (String × Json)) : List Json :=
  (fields.filter fun field => field.1 == name).map Prod.snd

/-- A field that must be given once. -/
def required? {α : Type} [JsonForm α] (name : String) (fields : List (String × Json)) : Option α :=
  match valuesOf name fields with
  | [value] => ofJson? value
  | _ => none

/-- A field that may be missing and is then `default`. -/
def optional? {α : Type} [JsonForm α] (default : α) (name : String)
    (fields : List (String × Json)) : Option α :=
  match valuesOf name fields with
  | [] => some default
  | [value] => ofJson? value
  | _ => none

/-- The number of an integer below `limit`. -/
def natBelow? (limit : Nat) : Json → Option Nat
  | .num n => n.nat?.filter (· < limit)
  | _ => none

/-- The text of a well formed string. -/
def text? : Json → Option String
  | .str s => s.text?
  | _ => none

/-- The tag of a value that says its case in a field, and the value that has the other fields: an
object with that field anywhere, or a list that starts with the tag. -/
def tagged? (tag : String) : Json → Option (String × Json)
  | .arr (first :: rest) => first.text?.map fun name => (name, .arr rest)
  | value => do
    let fields ← value.record? [tag]
    match valuesOf tag fields with
    | [name] => name.text?.map fun name => (name, value)
    | _ => none

/-- The name of a case without content: a text, or the only field of an object if it is null. -/
def caseName? : Json → Option String
  | .obj [(.text name, .null)] => some name
  | value => value.text?

def itemsOf? {α : Type} (read? : Json → Option α) : List Json → Option (List α)
  | [] => some []
  | item :: rest => do
    let value ← read? item
    let values ← itemsOf? read? rest
    some (value :: values)

def list? {α : Type} (read? : Json → Option α) : Json → Option (List α)
  | .arr items => itemsOf? read? items
  | _ => none

end Json

instance : JsonForm String where
  toJson := Json.text
  ofJson? := Json.text?

instance : JsonForm Bool where
  toJson := Json.bool
  ofJson?
    | .bool value => some value
    | _ => none

instance : JsonForm UInt8 where
  toJson byte := Json.nat byte.toNat
  ofJson? value := (value.natBelow? UInt8.size).map UInt8.ofNat

instance : JsonForm UInt64 where
  toJson n := Json.nat n.toNat
  ofJson? value := (value.natBelow? UInt64.size).map UInt64.ofNat

instance {α : Type} [JsonForm α] : JsonForm (List α) where
  toJson values := .arr (values.map toJson)
  ofJson? := Json.list? ofJson?

instance {α : Type} [JsonForm α] : JsonForm (Option α) where
  toJson
    | some value => toJson value
    | none => .null
  ofJson?
    | .null => some none
    | value => (ofJson? value).map some

end TokenBridge

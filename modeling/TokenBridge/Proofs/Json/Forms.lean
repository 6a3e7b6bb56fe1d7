import TokenBridge.Json.Codec
import TokenBridge.Proofs.Json.Reading

/-!
# Lawful JSON forms

A JSON form is lawful if it turns values into plain JSON and reads them back.

* `Json.record?_of_plain`: an object of plain fields is read as it was made, whatever names are
  asked for;
* `LawfulJsonForm.of_record`: a structure whose fields are lawful is lawful;
* `LawfulJsonForm.parse?_pretty`: a value is read back from the text of its form.
-/

namespace TokenBridge

namespace Numeral

theorem nearestDouble_le (n : Nat) : nearestDouble n ≤ 2 * n := by
  rcases Nat.eq_zero_or_pos n with rfl | hPos
  · decide
  have hUnit : Nat.pow 2 (n.log2 - 52) ≤ n :=
    Nat.le_trans (Nat.pow_le_pow_right (Nat.le_succ 1) (Nat.sub_le n.log2 52))
      (Nat.log2_self_le (Nat.pos_iff_ne_zero.mp hPos))
  have hKept : n / Nat.pow 2 (n.log2 - 52) * Nat.pow 2 (n.log2 - 52) ≤ n := Nat.div_mul_le_self _ _
  simp only [nearestDouble, Nat.add_mul]
  split <;> omega

theorem isFinite_ofNat {n : Nat} (h : n < UInt64.size) : (ofNat n).isFinite = true := by
  have hRange : nearestDouble n < overflow := by
    have hSize : 2 * UInt64.size < overflow := by decide +kernel
    have := nearestDouble_le n
    omega
  have hOne : nearestDouble (Nat.pow 10 (0 : Int).toNat) = 1 := by decide
  simp only [isFinite, ofNat, hOne, Nat.mul_one]
  simp [maxPower, hRange]

end Numeral

namespace Json

/-! ## Objects of plain fields -/

theorem skippableItems_iff (items : List Json) :
    skippableItems items = true ↔ ∀ item ∈ items, item.skippable = true := by
  induction items with
  | nil => simp [skippableItems]
  | cons item items ih => simp [skippableItems, ih]

theorem skippableFields_map_text_iff (fields : List (String × Json)) :
    skippableFields (fields.map fun field => (.text field.1, field.2)) = true ↔
      ∀ field ∈ fields, field.2.skippable = true := by
  induction fields with
  | nil => simp [skippableFields]
  | cons field fields ih =>
    simp only [List.map_cons, skippableFields, Literal.isClean, Bool.true_and, Bool.and_eq_true, ih,
      List.forall_mem_cons]

theorem Plain.skippable {j : Json} (h : Plain j) : j.skippable = true := by
  induction h with
  | null => rfl
  | bool b => rfl
  | nat hBound => rfl
  | text s => rfl
  | arr hItems ih => rw [Json.skippable, skippableItems_iff]; exact ih
  | record hFields ih => rw [Json.record, Json.skippable, skippableFields_map_text_iff]; exact ih

/-- An object of plain fields is read as it was made: the names asked for are there, and the others
can be passed over. -/
theorem record?_of_plain {fields : List (String × Json)} (h : ∀ field ∈ fields, Plain field.2)
    (names : List String) : (record fields).record? names = some fields := by
  show fieldsOf? names (fields.map fun field => (.text field.1, field.2)) = some fields
  induction fields with
  | nil => rfl
  | cons field fields ih =>
    obtain ⟨hField, hFields⟩ := List.forall_mem_cons.mp h
    simp [fieldsOf?, hField.skippable, ih hFields]

/-! ## Values held untyped -/

theorem sound_text (room : Nat) (s : String) : (text s).sound room = true :=
  rfl

theorem sound_nat (room : Nat) {n : Nat} (h : n < UInt64.size) : (nat n).sound room = true :=
  Numeral.isFinite_ofNat h

theorem sound_record (room : Nat) (fields : List (String × Json)) :
    (record fields).sound (room + 1) = fields.all fun field => field.2.sound room := by
  have hFields : soundFields room (fields.map fun field => (.text field.1, field.2)) =
      fields.all fun field => field.2.sound room := by
    induction fields with
    | nil => rfl
    | cons field fields ih =>
      rw [List.map_cons, soundFields, ih]
      rfl
  rw [record, sound, Nat.add_sub_cancel, hFields]
  simp

/-- The case of an object is read from its tag, and the object is kept. -/
theorem tagged?_record {fields : List (String × Json)} (h : ∀ field ∈ fields, Plain field.2)
    {tag name : String} (hTag : valuesOf tag fields = [text name]) :
    (record fields).tagged? tag = some (name, record fields) := by
  have hRead := record?_of_plain h [tag]
  rw [record] at hRead ⊢
  rw [tagged?, hRead]
  · simp [hTag, text, text?, Literal.text?]
  · intro _ _ hArr
    cases hArr

end Json

/-! ## Lawful forms -/

open Json

/-- A form that is plain and is read back. -/
class LawfulJsonForm (α : Type) [JsonForm α] : Prop where
  plain_toJson (a : α) : Plain (toJson a)
  ofJson?_toJson (a : α) : ofJson? (toJson a) = some a

attribute [simp] LawfulJsonForm.plain_toJson LawfulJsonForm.ofJson?_toJson

namespace LawfulJsonForm

variable {α : Type} [JsonForm α]

/-- **A value is read back from the text of its form.** -/
theorem parse?_pretty [LawfulJsonForm α] (a : α) :
    (parse? (pretty 0 (toJson a))).bind ofJson? = some a := by
  rw [(plain_toJson a).parse?_pretty, Option.bind_some, ofJson?_toJson]

/-- A structure is lawful if its fields are plain and it is built again from them. -/
theorem of_record {names : List String} {fields : α → List (String × Json)}
    {build : List (String × Json) → Option α} (hTo : ∀ a, toJson a = record (fields a))
    (hOf : ∀ value, ofJson? value = (value.record? names).bind build)
    (hPlain : ∀ a, ∀ field ∈ fields a, Plain field.2) (hBuild : ∀ a, build (fields a) = some a) :
    LawfulJsonForm α where
  plain_toJson a := hTo a ▸ Plain.record (hPlain a)
  ofJson?_toJson a := by rw [hTo, hOf, record?_of_plain (hPlain a), Option.bind_some, hBuild]

end LawfulJsonForm

/-! ## Basic types -/

instance : LawfulJsonForm String where
  plain_toJson s := .text s
  ofJson?_toJson _ := rfl

instance : LawfulJsonForm Bool where
  plain_toJson b := .bool b
  ofJson?_toJson _ := rfl

theorem Json.natBelow?_nat {limit n : Nat} (h : n < limit) :
    (Json.nat n).natBelow? limit = some n := by
  simp [Json.nat, natBelow?, h]

instance : LawfulJsonForm UInt8 where
  plain_toJson byte := .nat (Nat.lt_trans byte.toNat_lt (by decide))
  ofJson?_toJson byte := by
    show ((Json.nat byte.toNat).natBelow? UInt8.size).map UInt8.ofNat = some byte
    rw [natBelow?_nat byte.toNat_lt]
    simp

instance : LawfulJsonForm UInt64 where
  plain_toJson n := .nat n.toNat_lt
  ofJson?_toJson n := by
    show ((Json.nat n.toNat).natBelow? UInt64.size).map UInt64.ofNat = some n
    rw [natBelow?_nat n.toNat_lt]
    simp

theorem Json.itemsOf?_map_toJson {α : Type} [JsonForm α] [LawfulJsonForm α] (values : List α) :
    itemsOf? ofJson? (values.map toJson) = some values := by
  induction values with
  | nil => rfl
  | cons value values ih => simp [itemsOf?, LawfulJsonForm.ofJson?_toJson, ih]

instance {α : Type} [JsonForm α] [LawfulJsonForm α] : LawfulJsonForm (List α) where
  plain_toJson values := by
    refine .arr fun item hMem => ?_
    obtain ⟨value, -, rfl⟩ := List.mem_map.mp hMem
    exact LawfulJsonForm.plain_toJson value
  ofJson?_toJson values := itemsOf?_map_toJson values

/-- An optional value is lawful if no given value is written like a missing one. -/
theorem LawfulJsonForm.option {α : Type} [JsonForm α] [LawfulJsonForm α]
    (h : ∀ a : α, toJson a ≠ .null) : LawfulJsonForm (Option α) where
  plain_toJson
    | none => .null
    | some a => plain_toJson a
  ofJson?_toJson
    | none => rfl
    | some a => by
      simp only [toJson, ofJson?]
      split
      · exact absurd ‹_› (h a)
      · simp

end TokenBridge

import TokenBridge.Proofs.Json.Tokens

/-!
# Values read back

The indented layout of a value is read as that value, whatever follows it.

* `Plain`: values made of numbers of 64 bits and of texts, which are those that typed data turns
  into;
* `ReadBack`: the text of a value is read as the value, at any depth and with as much fuel as the
  text has characters;
* `Plain.readBack`, `Plain.parse?_pretty`: every plain value is read back.
-/

namespace TokenBridge.Json

/-- A value made of numbers of 64 bits and of texts. -/
inductive Plain : Json → Prop
  | null : Plain .null
  | bool (b : Bool) : Plain (.bool b)
  | nat {n : Nat} : n < UInt64.size → Plain (nat n)
  | text (s : String) : Plain (text s)
  | arr {items : List Json} : (∀ item ∈ items, Plain item) → Plain (.arr items)
  | record {fields : List (String × Json)} :
      (∀ field ∈ fields, Plain field.2) → Plain (record fields)

/-- The text of a value is read as the value, at any depth and whatever follows it. -/
def ReadBack (j : Json) : Prop :=
  ∀ (depth : Nat) {fuel : Nat} {rest : List Char}, (pretty depth j).length ≤ fuel → Closes rest →
    value? fuel (pretty depth j ++ rest) = some (j, rest)

/-! ## Layout -/

theorem isSpace_of_isDigit {c : Char} (h : c.isDigit = true) : isSpace c = false := by
  have hNe : ∀ blank : Char, blank.isDigit = false → (c == blank) = false := by
    intro blank hBlank
    refine beq_eq_false_iff_ne.mpr fun hEq => ?_
    rw [hEq, hBlank] at h
    cases h
  simp [isSpace, hNe]

theorem pretty_nat (depth n : Nat) : pretty depth (nat n) = Nat.toDigits 10 n := by
  simp [nat, pretty, numeralText, Numeral.ofNat]

theorem literal_append (s rest : List Char) :
    literal s ++ rest = '"' :: (s.flatMap escaped ++ '"' :: rest) := by
  simp [literal]

theorem pretty_text (depth : Nat) (s : String) : pretty depth (text s) = literal s.toList :=
  rfl

theorem pretty_record_cons (depth : Nat) (name : String) (value : Json)
    (fields : List (String × Json)) :
    pretty depth (record ((name, value) :: fields)) =
      '\x7b' :: newline (depth + 1) ++ literal name.toList ++ ':' :: ' ' ::
        pretty (depth + 1) value ++
        prettyFields depth (fields.map fun field => (.text field.1, field.2)) := by
  simp [record, pretty, stringText]

@[simp] theorem length_newline (depth : Nat) : (newline depth).length = 2 * depth + 1 := by
  simp [newline]

/-- A plain value starts with a character that is no blank and closes no list. -/
theorem Plain.head {j : Json} (h : Plain j) (depth : Nat) :
    ∃ c s, pretty depth j = c :: s ∧ isSpace c = false ∧ c ≠ ']' := by
  cases h with
  | null => exact ⟨'n', _, rfl, by decide⟩
  | bool b => cases b <;> exact ⟨_, _, rfl, by decide⟩
  | @nat n _ =>
    obtain ⟨c, s, hDigits, hDigit⟩ := digits_eq_cons n
    refine ⟨c, s, pretty_nat depth _ ▸ hDigits, isSpace_of_isDigit hDigit, ?_⟩
    rintro rfl
    cases hDigit
  | text s => exact ⟨'"', _, rfl, by decide⟩
  | @arr items _ => cases items <;> exact ⟨'[', _, rfl, by decide⟩
  | @record fields _ => cases fields <;> exact ⟨'\x7b', _, rfl, by decide⟩

/-! ## Blanks -/

/-- Blanks before a value do not matter. -/
theorem value?_congr {s t : List Char} (h : skip s = skip t) (fuel : Nat) :
    value? fuel s = value? fuel t := by
  cases fuel with
  | zero => rfl
  | succ fuel => rw [value?, value?, h]

theorem value?_blank (fuel : Nat) (s : List Char) : value? fuel (' ' :: s) = value? fuel s :=
  value?_congr (skip_blank s) fuel

theorem value?_newline (depth fuel : Nat) (s : List Char) :
    value? fuel (newline depth ++ s) = value? fuel s :=
  value?_congr (skip_newline depth s) fuel

theorem items?_newline (depth fuel : Nat) (s : List Char) :
    items? fuel (newline depth ++ s) = items? fuel s := by
  cases fuel with
  | zero => rfl
  | succ fuel => rw [items?, items?, value?_newline]

theorem fields?_newline (depth fuel : Nat) (s : List Char) :
    fields? fuel (newline depth ++ s) = fields? fuel s := by
  cases fuel with
  | zero => rfl
  | succ fuel => rw [fields?, fields?, skip_newline]

/-! ## Simple values -/

theorem readBack_null : ReadBack .null := by
  intro depth fuel rest hFuel _
  cases fuel with
  | zero => cases hFuel
  | succ fuel => rfl

theorem readBack_bool (b : Bool) : ReadBack (.bool b) := by
  intro depth fuel rest hFuel _
  cases fuel with
  | zero => cases b <;> cases hFuel
  | succ fuel => cases b <;> rfl

theorem value?_digit {c : Char} (h : c.isDigit = true) (fuel : Nat) (s : List Char) :
    value? (fuel + 1) (c :: s) = (numeral? (c :: s)).map fun read => (.num read.1, read.2) := by
  have hBlank : isSpace c = false := isSpace_of_isDigit h
  rw [value?, skip_cons hBlank]
  split
  -- the other six openings are no digits
  iterate 6
    · rename_i hEq
      obtain rfl := (List.cons.inj hEq).1
      cases h
  rfl

theorem readBack_nat {n : Nat} (h : n < UInt64.size) : ReadBack (nat n) := by
  intro depth fuel rest hFuel hRest
  obtain ⟨c, digits, hDigits, hDigit⟩ := digits_eq_cons n
  have hRead := numeral?_digits h hRest
  rw [pretty_nat] at hFuel ⊢
  rw [hDigits] at hFuel hRead ⊢
  cases fuel with
  | zero => cases hFuel
  | succ fuel => rw [List.cons_append, value?_digit hDigit, ← List.cons_append, hRead]; rfl

theorem readBack_text (s : String) : ReadBack (text s) := by
  intro depth fuel rest hFuel _
  rw [pretty_text] at hFuel ⊢
  cases fuel with
  | zero => cases hFuel
  | succ fuel =>
    rw [literal_append, value?, skip_cons rfl]
    simp [string?_literal, text]

/-! ## Lists -/

theorem value?_bracket {c : Char} {s t : List Char} (hSkip : skip s = c :: t) (hOpen : c ≠ ']')
    (fuel : Nat) :
    value? (fuel + 1) ('[' :: s) =
      (items? fuel (c :: t)).map fun read => (.arr read.1, read.2) := by
  rw [value?, skip_cons rfl]
  simp only [hSkip]
  split
  · rename_i hEq
    exact absurd (List.cons.inj hEq).1 hOpen
  · rfl

section Item

variable {item : Json} (hItem : ReadBack item) {depth fuel : Nat}
  (hFuel : (pretty depth item).length ≤ fuel)

include hItem hFuel

/-- An element is read up to the closing bracket after it. -/
theorem items?_last (outer : Nat) (rest : List Char) :
    items? (fuel + 1) (pretty depth item ++ (newline outer ++ ']' :: rest)) =
      some ([item], rest) := by
  have hRead := hItem depth hFuel (closes_newline outer (']' :: rest))
  rw [items?, hRead]
  simp only [skip_newline, skip_cons (show isSpace ']' = false from rfl)]

/-- An element is read up to the comma after it, and the other elements after that. -/
theorem items?_next (rest : List Char) :
    items? (fuel + 1) (pretty depth item ++ ',' :: rest) =
      (items? fuel rest).map fun read => (item :: read.1, read.2) := by
  have hRead := hItem depth hFuel (closes_comma rest)
  rw [items?, hRead]
  simp only [skip_cons (show isSpace ',' = false from rfl)]

end Item

/-- An element and those after it are read up to the closing bracket. -/
theorem items?_prettyItems {items : List Json} (hItems : ∀ item ∈ items, ReadBack item)
    {item : Json} (hItem : ReadBack item) (depth : Nat) {fuel : Nat} (rest : List Char)
    (hFuel : (pretty (depth + 1) item).length + (prettyItems depth items).length < fuel) :
    items? fuel (pretty (depth + 1) item ++ (prettyItems depth items ++ rest)) =
      some (item :: items, rest) := by
  -- the fuel covers the characters left: every further element also spends a comma
  induction items generalizing item fuel with
  | nil =>
    cases fuel with
    | zero => cases hFuel
    | succ fuel =>
      have hRead := @items?_last item hItem (depth + 1) fuel (by omega) depth rest
      simpa [prettyItems] using hRead
  | cons next items ih =>
    cases fuel with
    | zero => cases hFuel
    | succ fuel =>
      obtain ⟨hNext, hLater⟩ := List.forall_mem_cons.mp hItems
      have hStep := @items?_next item hItem (depth + 1) fuel (by omega)
      simp only [prettyItems, List.length_cons, List.length_append] at hFuel
      have hRead := @ih hLater next hNext fuel (by omega)
      simp [prettyItems, hStep, items?_newline, hRead]

theorem readBack_arr {items : List Json} (hPlain : ∀ item ∈ items, Plain item)
    (hItems : ∀ item ∈ items, ReadBack item) : ReadBack (.arr items) := by
  intro depth fuel rest hFuel _
  cases fuel with
  | zero => cases items <;> cases hFuel
  | succ fuel =>
    cases items with
    | nil => rfl
    | cons item items =>
      obtain ⟨c, s, hHead, hBlank, hOpen⟩ := (hPlain item List.mem_cons_self).head (depth + 1)
      obtain ⟨hItem, hItems⟩ := List.forall_mem_cons.mp hItems
      simp only [pretty, List.length_cons, List.length_append, length_newline] at hFuel
      have hRead := @items?_prettyItems items hItems item hItem depth fuel rest (by omega)
      have hSkip : skip (newline (depth + 1) ++ (pretty (depth + 1) item ++
          (prettyItems depth items ++ rest))) =
          c :: (s ++ (prettyItems depth items ++ rest)) := by
        rw [skip_newline, hHead, List.cons_append, skip_cons hBlank]
      rw [hHead, List.cons_append] at hRead
      simp [pretty, value?_bracket hSkip hOpen, hRead]

/-! ## Objects -/

theorem value?_brace {c : Char} {s t : List Char} (hSkip : skip s = c :: t) (hOpen : c ≠ '\x7d')
    (fuel : Nat) :
    value? (fuel + 1) ('\x7b' :: s) =
      (fields? fuel (c :: t)).map fun read => (.obj read.1, read.2) := by
  rw [value?, skip_cons rfl]
  simp only [hSkip]
  split
  · rename_i hEq
    exact absurd (List.cons.inj hEq).1 hOpen
  · rfl

section Field

variable {name : String} {value : Json} (hValue : ReadBack value) {depth fuel : Nat}
  (hFuel : (pretty depth value).length ≤ fuel)

include hValue hFuel

/-- A field is read up to the closing brace after it. -/
theorem fields?_last (outer : Nat) (rest : List Char) :
    fields? (fuel + 1) (literal name.toList ++ ':' :: ' ' :: (pretty depth value ++
      (newline outer ++ '\x7d' :: rest))) = some ([(.text name, value)], rest) := by
  have hRead := hValue depth hFuel (closes_newline outer ('\x7d' :: rest))
  rw [literal_append, fields?, skip_cons rfl]
  simp only [string?_literal, skip_cons (show isSpace ':' = false from rfl), value?_blank, hRead,
    skip_newline, skip_cons (show isSpace '\x7d' = false from rfl)]

/-- A field is read up to the comma after it, and the other fields after that. -/
theorem fields?_next (rest : List Char) :
    fields? (fuel + 1) (literal name.toList ++ ':' :: ' ' :: (pretty depth value ++ ',' :: rest)) =
      (fields? fuel rest).map fun read => ((.text name, value) :: read.1, read.2) := by
  have hRead := hValue depth hFuel (closes_comma rest)
  rw [literal_append, fields?, skip_cons rfl]
  simp only [string?_literal, skip_cons (show isSpace ':' = false from rfl), value?_blank, hRead,
    skip_cons (show isSpace ',' = false from rfl)]

end Field

/-- A field and those after it are read up to the closing brace. -/
theorem fields?_prettyFields {fields : List (String × Json)}
    (hFields : ∀ field ∈ fields, ReadBack field.2) {name : String} {value : Json}
    (hValue : ReadBack value) (depth : Nat) {fuel : Nat} (rest : List Char)
    (hFuel : (pretty (depth + 1) value).length +
      (prettyFields depth (fields.map fun field => (.text field.1, field.2))).length < fuel) :
    fields? fuel (literal name.toList ++ ':' :: ' ' :: (pretty (depth + 1) value ++
        (prettyFields depth (fields.map fun field => (.text field.1, field.2)) ++ rest))) =
      some ((.text name, value) :: fields.map fun field => (.text field.1, field.2), rest) := by
  -- as for lists, with the name read before each value
  induction fields generalizing name value fuel with
  | nil =>
    cases fuel with
    | zero => cases hFuel
    | succ fuel =>
      have hRead := @fields?_last name value hValue (depth + 1) fuel (by omega) depth rest
      simpa [prettyFields] using hRead
  | cons field fields ih =>
    cases fuel with
    | zero => cases hFuel
    | succ fuel =>
      obtain ⟨hField, hLater⟩ := List.forall_mem_cons.mp hFields
      have hStep := @fields?_next name value hValue (depth + 1) fuel (by omega)
      simp only [List.map_cons, prettyFields, List.length_cons, List.length_append] at hFuel
      have hRead := @ih hLater field.1 field.2 hField fuel (by omega)
      simp [prettyFields, stringText, hStep, fields?_newline, hRead]

theorem readBack_record {fields : List (String × Json)}
    (hFields : ∀ field ∈ fields, ReadBack field.2) : ReadBack (record fields) := by
  intro depth fuel rest hFuel _
  cases fuel with
  | zero => cases fields <;> cases hFuel
  | succ fuel =>
    cases fields with
    | nil => rfl
    | cons field fields =>
      obtain ⟨name, value⟩ := field
      obtain ⟨hValue, hFields⟩ := List.forall_mem_cons.mp hFields
      rw [pretty_record_cons] at hFuel ⊢
      simp only [List.length_cons, List.length_append, length_newline] at hFuel
      have hRead := @fields?_prettyFields fields hFields name value hValue depth fuel rest
        (by omega)
      simp only [List.cons_append, List.append_assoc, literal_append] at hRead ⊢
      rw [value?_brace ((skip_newline _ _).trans (skip_cons rfl _)) (by decide), hRead]
      rfl

/-! ## Plain values -/

/-- **A plain value is read back**, at any depth and whatever follows it. -/
theorem Plain.readBack {j : Json} (h : Plain j) : ReadBack j := by
  induction h with
  | null => exact readBack_null
  | bool b => exact readBack_bool b
  | nat hBound => exact readBack_nat hBound
  | text s => exact readBack_text s
  | arr hItems ih => exact readBack_arr hItems ih
  | record _ ih => exact readBack_record ih

theorem Plain.parse?_pretty {j : Json} (h : Plain j) : parse? (pretty 0 j) = some j := by
  have hRead : value? (2 * (pretty 0 j).length + 2) (pretty 0 j ++ []) = some (j, []) :=
    h.readBack 0 (by omega) (by simp [Closes])
  rw [List.append_nil] at hRead
  rw [parse?, hRead]
  rfl

end TokenBridge.Json

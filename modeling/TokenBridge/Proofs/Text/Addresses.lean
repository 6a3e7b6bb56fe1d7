import TokenBridge.Address.Text
import TokenBridge.Proofs.Json.Forms
import TokenBridge.Proofs.Text.Hex

/-!
# Addresses as text

All kinds of addresses are read by one rule: after an optional mark `0x` or `0X` stand forty digits
of either case, which spell the twenty bytes. They are written by two: host addresses in lower-case
digits, Ethereum addresses with the letters raised that a checksum tells.

* `parse_eq_ok_iff`: the texts that are read as an address;
* `exists_chars_eq`: both written forms are marked digits that spell the bytes;
* `parse_spellings`: the language, the written forms under any change of case, and JSON.
-/

namespace TokenBridge.Address

open Text Text.Hex

variable {party : Party} {a : Address party} {s digits : List Char}

/-! ## Marks -/

/-- A text is some digits after an optional mark. -/
def Marked (s digits : List Char) : Prop :=
  s = digits ∨ s = '0' :: 'x' :: digits ∨ s = '0' :: 'X' :: digits

theorem marked_stripMark (s : List Char) : Marked s (stripMark s) := by
  unfold stripMark
  split
  · exact Or.inr (Or.inl rfl)
  · exact Or.inr (Or.inr rfl)
  · exact Or.inl rfl

/-- No mark is left before digits. -/
theorem stripMark_of_marked {bytes : List UInt8} (h : Marked s digits)
    (hSpells : Spells digits bytes) : stripMark s = digits := by
  obtain rfl | rfl | rfl := h
  · cases hSpells with
    | nil => rfl
    | byte hHigh hLow hRest =>
      unfold stripMark
      -- the second letter of a mark is no digit
      split
      · rename_i hText
        cases hText
        cases hLow
      · rename_i hText
        cases hText
        cases hLow
      · rfl
  · rfl
  · rfl

/-! ## Reading -/

theorem length_toBytes (a : Address party) : a.toBytes.length = 20 :=
  Word.length_toBytes a.word

theorem ofBytes_eq_ok_iff {bytes : List UInt8} :
    (ofBytes bytes : Except Malformed (Address party)) = .ok a ↔ bytes = a.toBytes := by
  constructor
  · intro h
    rw [ofBytes] at h
    split at h
    · rename_i word hWord
      obtain rfl := Except.ok.inj h
      exact (Word.toBytes_of_ofBytes? hWord).symm
    · cases h
  · intro h
    rw [h, ofBytes, toBytes, Word.ofBytes?_toBytes]

/-- **The texts of an address.** -/
theorem parse_eq_ok_iff :
    parse s = .ok a ↔ ∃ digits, Marked s digits ∧ Spells digits a.toBytes := by
  constructor
  · intro h
    rw [parse] at h
    split at h
    · rename_i bytes hDecode
      have hBytes : bytes = a.toBytes := ofBytes_eq_ok_iff.mp h
      exact ⟨stripMark s, marked_stripMark s, decode_utf8_eq_ok_iff.mp (hBytes ▸ hDecode)⟩
    · cases h
  · rintro ⟨digits, hMarked, hSpells⟩
    rw [parse, stripMark_of_marked hMarked hSpells, decode_utf8_eq_ok_iff.mpr hSpells]
    exact ofBytes_eq_ok_iff.mpr rfl

theorem exists_toBytes_eq (party : Party) {bytes : List UInt8} (h : bytes.length = 20) :
    ∃ a : Address party, a.toBytes = bytes := by
  have hWord : (Word.ofBytes? bytes : Option (Word 20)) =
      some ⟨ofBigEndian bytes, ofBigEndian_lt h⟩ := dif_pos h
  exact ⟨⟨_⟩, Word.toBytes_of_ofBytes? hWord⟩

/-- Any forty digits are the digits of an address. -/
theorem exists_parse_iff :
    (∃ a : Address party, parse s = .ok a) ↔
      ∃ digits, Marked s digits ∧ digits.length = 40 ∧ ∀ c ∈ digits, c ∈ alphabet := by
  constructor
  · rintro ⟨a, h⟩
    obtain ⟨digits, hMarked, hSpells⟩ := parse_eq_ok_iff.mp h
    exact ⟨digits, hMarked, by rw [hSpells.length_eq, length_toBytes], hSpells.mem_alphabet⟩
  · rintro ⟨digits, hMarked, hLength, hDigits⟩
    obtain ⟨bytes, hSpells⟩ := exists_spells 20 hLength hDigits
    have hSize : bytes.length = 20 := by
      have := hSpells.length_eq
      omega
    obtain ⟨a, hBytes⟩ := exists_toBytes_eq party hSize
    exact ⟨a, parse_eq_ok_iff.mpr ⟨digits, hMarked, hBytes ▸ hSpells⟩⟩

/-! ## Writing -/

theorem raiseLetters_cased (digits hash : List Char) : Cased digits (raiseLetters digits hash) := by
  induction digits, hash using raiseLetters.induct with
  | case1 digit digits mark hash ih =>
    rw [raiseLetters]
    refine .cons ?_ ih
    split
    · exact Or.inr rfl
    · exact Or.inl rfl
  | case2 digits hash hEnd =>
    rw [raiseLetters]
    · exact cased_refl digits
    · exact hEnd

/-- **The written forms.** -/
theorem exists_chars_eq (a : Address party) :
    ∃ digits, a.chars = '0' :: 'x' :: digits ∧ Spells digits a.toBytes := by
  cases party with
  | ethereum =>
    refine ⟨a.checksumDigits, by rw [chars], spells_of_cased ?_⟩
    rw [checksumDigits]
    exact raiseLetters_cased _ _
  | account => exact ⟨encode a.toBytes, rfl, spells_of_cased (cased_refl _)⟩
  | validator => exact ⟨encode a.toBytes, rfl, spells_of_cased (cased_refl _)⟩

theorem parse_chars (a : Address party) : parse a.chars = .ok a := by
  obtain ⟨digits, hChars, hSpells⟩ := a.exists_chars_eq
  exact parse_eq_ok_iff.mpr ⟨digits, Or.inr (Or.inl hChars), hSpells⟩

theorem parse_text (a : Address party) : parse a.text.toList = .ok a := by
  rw [text, String.toList_ofList, parse_chars]

/-- The case of the digits that are written does not matter. -/
theorem parse_of_toLower
    (h : ('0' :: 'x' :: digits).map Char.toLower = a.chars.map Char.toLower) :
    parse ('0' :: 'x' :: digits) = .ok a := by
  obtain ⟨shown, hChars, hSpells⟩ := a.exists_chars_eq
  rw [hChars] at h
  have hCase : digits.map Char.toLower = shown.map Char.toLower := by
    simpa using h
  exact parse_eq_ok_iff.mpr ⟨digits, Or.inr (Or.inl rfl), hSpells.of_toLower hCase⟩

theorem text_injective : Function.Injective (text : Address party → String) := by
  intro a b h
  have hParse : (Except.ok a : Except Malformed (Address party)) = .ok b := by
    rw [← parse_text a, h, parse_text b]
  exact Except.ok.inj hParse

end Address

instance {party : Party} : LawfulJsonForm (Address party) where
  plain_toJson _ := .text _
  ofJson?_toJson a := by
    show (Address.parse (String.ofList a.chars).toList).toOption = some a
    rw [String.toList_ofList, Address.parse_chars]
    rfl

/-- **Addresses as text.** For each kind of address, a text is read just when it is an optional mark
and forty hexadecimal digits of either case, and what is read are the bytes that these spell. An
address is read back from its text, from its JSON form, and from its text with the digits in any
other case; so no two addresses of a kind have the same text. -/
theorem Address.parse_spellings (party : Party) :
    (∀ s (a : Address party), parse s = .ok a ↔
      ∃ digits, Marked s digits ∧ digits.length = 40 ∧ Text.Hex.Spells digits a.toBytes) ∧
    (∀ s, (∃ a : Address party, parse s = .ok a) ↔
      ∃ digits, Marked s digits ∧ digits.length = 40 ∧ ∀ c ∈ digits, c ∈ Text.Hex.alphabet) ∧
    (∀ a : Address party, parse a.text.toList = .ok a ∧
      (Json.parse? ((toJson a).pretty 0)).bind ofJson? = some a ∧
      ∀ digits, ('0' :: 'x' :: digits).map Char.toLower = a.chars.map Char.toLower →
        parse ('0' :: 'x' :: digits) = .ok a) ∧
    Function.Injective (text : Address party → String) := by
  refine ⟨fun s a => ?_, fun s => exists_parse_iff, fun a => ⟨a.parse_text, ?_, ?_⟩, text_injective⟩
  · rw [parse_eq_ok_iff]
    constructor
    · rintro ⟨digits, hMarked, hSpells⟩
      exact ⟨digits, hMarked, by rw [hSpells.length_eq, length_toBytes], hSpells⟩
    · rintro ⟨digits, hMarked, -, hSpells⟩
      exact ⟨digits, hMarked, hSpells⟩
  · exact LawfulJsonForm.parse?_pretty a
  · exact fun digits h => parse_of_toLower h

end TokenBridge

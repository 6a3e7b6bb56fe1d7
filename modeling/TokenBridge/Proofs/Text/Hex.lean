import Mathlib.Data.List.Forall2
import TokenBridge.Amount
import TokenBridge.Text.Utf8

/-!
# Hexadecimal text read back

Amounts are read from the digits they are written with, and bytes from digits of either case. Text
is decoded byte by byte; no byte of a character outside of ASCII is a digit.

* `number?_toDigits`, `Amount.ofHex?_hexChars`: a number without leading zeros;
* `decode_utf8_eq_ok_iff`: the texts from which some bytes are decoded;
* `spells_of_cased`, `exists_spells`: the digits of some bytes, and the bytes of some digits.
-/

namespace TokenBridge

namespace Text.Hex

theorem digit?_digitChar {n : Nat} (h : n < 16) : digit? (Nat.digitChar n) = some n := by
  revert n
  decide

/-! ## Numbers -/

theorem number?_concat (digits : List Char) (c : Char) :
    number? (digits ++ [c]) = (number? digits).bind fun n => (digit? c).map (16 * n + ·) := by
  simp [number?, List.foldlM_append]

theorem number?_zero_cons (digits : List Char) : number? ('0' :: digits) = number? digits :=
  rfl

/-- **A number is read back from its digits.** -/
theorem number?_toDigits (n : Nat) : number? (Nat.toDigits 16 n) = some n := by
  induction n using Nat.base_induction 16 (by decide) with
  | single n hn =>
    rw [Nat.toDigits_of_lt_base hn, ← List.nil_append [Nat.digitChar n], number?_concat,
      digit?_digitChar hn]
    simp [number?]
  | digit n k hDigit hPos ih =>
    rw [← Nat.toDigits_append_toDigits (by decide) hPos hDigit, Nat.toDigits_of_lt_base hDigit,
      number?_concat, ih, digit?_digitChar hDigit]
    rfl

theorem exists_of_mem_toDigits {c : Char} {n : Nat} (h : c ∈ Nat.toDigits 16 n) :
    ∃ d < 16, c = Nat.digitChar d := by
  induction n using Nat.base_induction 16 (by decide) with
  | single n hn =>
    rw [Nat.toDigits_of_lt_base hn] at h
    exact ⟨n, hn, List.mem_singleton.mp h⟩
  | digit n k hDigit hPos ih =>
    rw [← Nat.toDigits_append_toDigits (by decide) hPos hDigit, Nat.toDigits_of_lt_base hDigit] at h
    rcases List.mem_append.mp h with hFront | hLast
    · exact ih hFront
    · exact ⟨k, hDigit, List.mem_singleton.mp hLast⟩

/-! ## Digits in bytes -/

theorem lt_of_digit? {c : Char} {n : Nat} (h : digit? c = some n) : c.toNat < 128 := by
  rw [digit?] at h
  grind

theorem toNat_charOfByte (byte : UInt8) : (Char.ofNat byte.toNat).toNat = byte.toNat := by
  have := byte.toNat_lt
  rw [Char.ofNat, dif_pos (Or.inl (by omega))]
  rfl

theorem charOfByte_of_ascii {c : Char} (h : c.toNat < 128) :
    Char.ofNat (UInt8.ofNat c.toNat).toNat = c := by
  rw [UInt8.toNat_ofNat_of_lt' (show c.toNat < 2 ^ 8 by omega), Char.ofNat_toNat]

theorem utf8EncodeChar_of_ascii {c : Char} (h : c.toNat < 128) :
    String.utf8EncodeChar c = [UInt8.ofNat c.toNat] :=
  if_pos (show c.toNat ≤ 127 by omega)

theorem exists_high_byte {c : Char} (h : ¬c.toNat < 128) :
    ∃ byte ∈ String.utf8EncodeChar c, 128 ≤ byte.toNat := by
  -- every longer form ends in the low six bits behind a mark
  refine ⟨UInt8.ofNat (c.toNat % 64 + 128), ?_, ?_⟩
  · have hVal : c.val.toNat = c.toNat := rfl
    simp only [String.utf8EncodeChar, hVal]
    rw [if_neg (by omega)]
    split
    · simp
    · split
      · simp
      · simp
  · rw [UInt8.toNat_ofNat_of_lt' (show _ < 2 ^ 8 by omega)]
    omega

/-- A text of ASCII bytes has one character a byte. -/
theorem map_utf8_of_ascii {s : List Char} (h : ∀ byte ∈ utf8 s, byte.toNat < 128) :
    (utf8 s).map (fun byte => Char.ofNat byte.toNat) = s := by
  induction s with
  | nil => rfl
  | cons c s ih =>
    have hBytes : utf8 (c :: s) = String.utf8EncodeChar c ++ utf8 s := rfl
    rw [hBytes, List.forall_mem_append] at h
    have hCode : c.toNat < 128 := by
      by_contra hHigh
      obtain ⟨byte, hMem, hByte⟩ := exists_high_byte hHigh
      have := h.1 byte hMem
      omega
    rw [hBytes, List.map_append, ih h.2, utf8EncodeChar_of_ascii hCode, List.map_singleton,
      charOfByte_of_ascii hCode, List.singleton_append]

/-! ## Bytes -/

/-- Digits of either case spell bytes, two digits a byte and the high one first. -/
inductive Spells : List Char → List UInt8 → Prop
  | nil : Spells [] []
  | byte {high low : Char} {h l : Nat} {digits : List Char} {bytes : List UInt8}
      (hHigh : digit? high = some h) (hLow : digit? low = some l) (hRest : Spells digits bytes) :
      Spells (high :: low :: digits) (UInt8.ofNat (16 * h + l) :: bytes)

theorem digitAt_eq_ok_iff {byte : UInt8} {position n : Nat} :
    digitAt byte position = .ok n ↔ digit? (Char.ofNat byte.toNat) = some n := by
  rw [digitAt]
  cases digit? (Char.ofNat byte.toNat) with
  | none => simp
  | some value => simp

theorem digitAt_of_digit? {c : Char} {n : Nat} (h : digit? c = some n) (position : Nat) :
    digitAt (UInt8.ofNat c.toNat) position = .ok n := by
  rwa [digitAt_eq_ok_iff, charOfByte_of_ascii (lt_of_digit? h)]

theorem Spells.length_eq {digits : List Char} {bytes : List UInt8} (h : Spells digits bytes) :
    digits.length = 2 * bytes.length := by
  induction h with
  | nil => rfl
  | byte _ _ _ ih => simp [ih]; omega

theorem Spells.utf8_eq {digits : List Char} {bytes : List UInt8} (h : Spells digits bytes) :
    utf8 digits = digits.map fun c => UInt8.ofNat c.toNat := by
  induction h with
  | nil => rfl
  | byte hHigh hLow _ ih =>
    simp only [utf8, List.flatMap_cons, List.map_cons] at ih ⊢
    rw [utf8EncodeChar_of_ascii (lt_of_digit? hHigh), utf8EncodeChar_of_ascii (lt_of_digit? hLow),
      ih]
    rfl

theorem Spells.decodeFrom_eq {digits : List Char} {bytes : List UInt8} (h : Spells digits bytes)
    (position : Nat) :
    decodeFrom position (digits.map fun c => UInt8.ofNat c.toNat) = .ok bytes := by
  induction h generalizing position with
  | nil => rfl
  | byte hHigh hLow _ ih =>
    rw [List.map_cons, List.map_cons, decodeFrom, digitAt_of_digit? hHigh, digitAt_of_digit? hLow,
      ih]
    rfl

theorem decodeFrom_pair {position : Nat} {high low : UInt8} {rest bytes : List UInt8}
    (h : decodeFrom position (high :: low :: rest) = .ok bytes) :
    ∃ a b tail, digitAt high position = .ok a ∧ digitAt low (position + 1) = .ok b ∧
      decodeFrom (position + 2) rest = .ok tail ∧ bytes = UInt8.ofNat (16 * a + b) :: tail := by
  rw [decodeFrom] at h
  cases hHigh : digitAt high position with
  | error fault =>
    rw [hHigh] at h
    cases h
  | ok a =>
    cases hLow : digitAt low (position + 1) with
    | error fault =>
      rw [hHigh, hLow] at h
      cases h
    | ok b =>
      cases hRest : decodeFrom (position + 2) rest with
      | error fault =>
        rw [hHigh, hLow, hRest] at h
        cases h
      | ok tail =>
        rw [hHigh, hLow, hRest] at h
        exact ⟨a, b, tail, rfl, rfl, rfl, (Except.ok.inj h).symm⟩

/-- What is decoded is ASCII digits, two a byte. -/
theorem spells_of_decodeFrom {position : Nat} {text bytes : List UInt8}
    (h : decodeFrom position text = .ok bytes) :
    (∀ byte ∈ text, byte.toNat < 128) ∧
      Spells (text.map fun byte => Char.ofNat byte.toNat) bytes := by
  induction position, text using decodeFrom.induct generalizing bytes with
  | case1 position high low rest ih =>
    obtain ⟨a, b, tail, hHigh, hLow, hRest, rfl⟩ := decodeFrom_pair h
    obtain ⟨hAscii, hSpells⟩ := ih hRest
    rw [digitAt_eq_ok_iff] at hHigh hLow
    have hFirst := lt_of_digit? hHigh
    have hSecond := lt_of_digit? hLow
    rw [toNat_charOfByte] at hFirst hSecond
    exact ⟨List.forall_mem_cons.mpr ⟨hFirst, List.forall_mem_cons.mpr ⟨hSecond, hAscii⟩⟩,
      .byte hHigh hLow hSpells⟩
  | case2 position byte => cases h
  | case3 position =>
    obtain rfl := Except.ok.inj h
    exact ⟨by simp, .nil⟩

/-- **What is decoded.** -/
theorem decode_utf8_eq_ok_iff {s : List Char} {bytes : List UInt8} :
    decode (utf8 s) = .ok bytes ↔ Spells s bytes := by
  constructor
  · intro h
    rw [decode] at h
    split at h
    · cases h
    · obtain ⟨hAscii, hSpells⟩ := spells_of_decodeFrom h
      rwa [map_utf8_of_ascii hAscii] at hSpells
  · intro h
    have hLength := h.length_eq
    rw [h.utf8_eq, decode, if_neg (by rw [List.length_map]; omega)]
    exact h.decodeFrom_eq 0

/-! ## Changed case -/

/-- A character is a digit, or the digit raised. -/
def Raised (digit c : Char) : Prop :=
  c = digit ∨ c = digit.toUpper

/-- A text is made of some digits, with some letters raised. -/
def Cased (digits s : List Char) : Prop :=
  List.Forall₂ Raised digits s

theorem cased_refl (digits : List Char) : Cased digits digits := by
  induction digits with
  | nil => exact .nil
  | cons digit digits ih => exact .cons (Or.inl rfl) ih

theorem digits_lt (byte : UInt8) : byte.toNat / 16 < 16 ∧ byte.toNat % 16 < 16 := by
  have := byte.toNat_lt
  omega

theorem digit?_raised {n : Nat} (h : n < 16) {c : Char} (hc : Raised (Nat.digitChar n) c) :
    digit? c = some n := by
  rcases hc with rfl | rfl <;>
  · revert n
    decide

/-- Bytes are spelled by their digits, whatever letters are raised. -/
theorem spells_of_cased {bytes : List UInt8} {s : List Char} (h : Cased (encode bytes) s) :
    Spells s bytes := by
  induction bytes generalizing s with
  | nil =>
    cases h
    exact .nil
  | cons byte bytes ih =>
    obtain ⟨hHigh, hLow⟩ := digits_lt byte
    rcases h with _ | ⟨hFirst, _ | ⟨hSecond, hRest⟩⟩
    have hSpells := Spells.byte (digit?_raised hHigh hFirst) (digit?_raised hLow hSecond) (ih hRest)
    rwa [Nat.div_add_mod, UInt8.ofNat_toNat] at hSpells

theorem digit?_toLower (c : Char) : digit? c.toLower = digit? c := by
  by_cases hCode : c.toNat < 128
  · have hAscii : ∀ code < 128, digit? (Char.ofNat code).toLower = digit? (Char.ofNat code) := by
      decide
    rw [← Char.ofNat_toNat c, hAscii c.toNat hCode]
  · have hLower : c.toLower = c := dif_neg fun hUpper => by
      have hLast : c.toNat ≤ 90 := UInt32.le_iff_toNat_le.mp hUpper.2
      omega
    rw [hLower]

theorem Spells.of_toLower {digits other : List Char} {bytes : List UInt8} (h : Spells digits bytes)
    (hCase : other.map Char.toLower = digits.map Char.toLower) : Spells other bytes := by
  induction h generalizing other with
  | nil =>
    obtain rfl := List.map_eq_nil_iff.mp hCase
    exact .nil
  | byte hHigh hLow hRest ih =>
    obtain ⟨high, tail, rfl, hFirst, hTail⟩ := List.map_eq_cons_iff.mp hCase
    obtain ⟨low, rest, rfl, hSecond, hOther⟩ := List.map_eq_cons_iff.mp hTail
    rw [← digit?_toLower, ← hFirst, digit?_toLower] at hHigh
    rw [← digit?_toLower, ← hSecond, digit?_toLower] at hLow
    exact .byte hHigh hLow (ih hOther)

/-! ## The language -/

def alphabet : List Char :=
  "0123456789abcdefABCDEF".toList

theorem mem_alphabet_iff {c : Char} : c ∈ alphabet ↔ ∃ n, digit? c = some n := by
  rw [← Option.isSome_iff_exists]
  constructor
  · have hDigits : alphabet.all (fun c => (digit? c).isSome) = true := by decide
    exact List.all_eq_true.mp hDigits c
  · intro h
    have hAscii : ∀ code < 128, (digit? (Char.ofNat code)).isSome = true →
        Char.ofNat code ∈ alphabet := by decide
    obtain ⟨n, hDigit⟩ := Option.isSome_iff_exists.mp h
    have hChar := hAscii c.toNat (lt_of_digit? hDigit)
    rw [Char.ofNat_toNat] at hChar
    exact hChar h

theorem Spells.mem_alphabet {digits : List Char} {bytes : List UInt8} (h : Spells digits bytes) :
    ∀ c ∈ digits, c ∈ alphabet := by
  induction h with
  | nil => simp
  | byte hHigh hLow _ ih =>
    simp only [List.forall_mem_cons]
    exact ⟨mem_alphabet_iff.mpr ⟨_, hHigh⟩, mem_alphabet_iff.mpr ⟨_, hLow⟩, ih⟩

theorem exists_spells (size : Nat) {digits : List Char} (hLength : digits.length = 2 * size)
    (hDigits : ∀ c ∈ digits, c ∈ alphabet) : ∃ bytes, Spells digits bytes := by
  induction size generalizing digits with
  | zero =>
    obtain rfl := List.length_eq_zero_iff.mp hLength
    exact ⟨[], .nil⟩
  | succ size ih =>
    match digits, hLength with
    | high :: low :: rest, hLength =>
      simp only [List.forall_mem_cons, mem_alphabet_iff] at hDigits
      obtain ⟨⟨a, hHigh⟩, ⟨b, hLow⟩, hRest⟩ := hDigits
      obtain ⟨bytes, hSpells⟩ := ih (by simp at hLength; omega) fun c hMem =>
        mem_alphabet_iff.mpr (hRest c hMem)
      exact ⟨_, .byte hHigh hLow hSpells⟩

end Text.Hex

/-! ## Amounts -/

namespace Amount

open Text.Hex

theorem isGap_digitChar {d : Nat} (h : d < 16) : isGap (Nat.digitChar d) = false := by
  revert d
  decide

/-- Digits without blanks are read whole, after a zero if their number is odd. -/
theorem number?_pairedDigits {s : List Char} (h : ∀ c ∈ s, isGap c = false) :
    number? (pairedDigits s) = number? s := by
  have hKept : s.filter (fun c => !isGap c) = s :=
    List.filter_eq_self.mpr fun c hMem => by simp [h c hMem]
  simp only [pairedDigits, hKept]
  -- with the padding the number of digits is even, so no digit is left without a partner
  split
  · rw [List.take_of_length_le (by rw [List.length_cons]; omega), number?_zero_cons]
  · rw [List.take_of_length_le (by omega)]

theorem ofHex?_marked (body : List Char) :
    ofHex? ('0' :: 'x' :: body) =
      if body.isEmpty || decide (64 < body.length) then none
      else if body.any fun c => !isGap c && (digit? c).isNone then none
      else (number? (pairedDigits body)).bind ofNat? :=
  rfl

theorem length_toDigits_le (a : Amount) : (Nat.toDigits 16 a.toNat).length ≤ 64 :=
  (Nat.length_toDigits_le_iff (by decide) (by decide)).mpr a.isLt

/-- **An amount is read back from its hexadecimal form.** -/
theorem ofHex?_hexChars (a : Amount) : ofHex? a.hexChars = some a := by
  have hDigits : ∀ c ∈ Nat.toDigits 16 a.toNat, isGap c = false ∧ (digit? c).isNone = false := by
    intro c hMem
    obtain ⟨d, hd, rfl⟩ := exists_of_mem_toDigits hMem
    exact ⟨isGap_digitChar hd, by rw [digit?_digitChar hd]; rfl⟩
  have hFits : ¬((Nat.toDigits 16 a.toNat).isEmpty || decide
      (64 < (Nat.toDigits 16 a.toNat).length)) = true := by
    simp [Nat.toDigits_ne_nil, length_toDigits_le a]
  have hValid : ¬((Nat.toDigits 16 a.toNat).any fun c => !isGap c && (digit? c).isNone) = true := by
    rw [List.any_eq_true]
    rintro ⟨c, hMem, hBad⟩
    simp [hDigits c hMem] at hBad
  have hNumber : number? (pairedDigits (Nat.toDigits 16 a.toNat)) = some a.toNat := by
    rw [number?_pairedDigits fun c hMem => (hDigits c hMem).1, number?_toDigits]
  rw [hexChars, ofHex?_marked, if_neg hFits, if_neg hValid, hNumber, Option.bind_some, ofNat?,
    dif_pos a.isLt]

end Amount

end TokenBridge

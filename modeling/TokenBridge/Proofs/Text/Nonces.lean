import TokenBridge.Nonce
import TokenBridge.Proofs.Text.Base64
import TokenBridge.Proofs.Text.Decimal

/-!
# Nonces as text

A nonce is read from two forms, the base64 text of its eight bytes and a decimal numeral. Digits and
the plus sign are in the base64 alphabet too, but eight bytes leave their last group open, so their
text has a pad in it and is no numeral.

* `ofBytes_eq_ok_iff`: eight bytes are one nonce;
* `not_numeral_base64`: no text is of both forms;
* `parse_eq_ok_iff`, `parse_eq_error_iff`: the texts that are read, and the fault of all others;
* `parse_forms`: the statement as a whole.
-/

namespace TokenBridge.Nonce

open Text

variable {s : List Char} {n : Nonce}

/-! ## Eight bytes -/

theorem toNat_lt (n : Nonce) : n.toNat < UInt64.size :=
  n.value.toNat_lt

theorem length_toBytes (n : Nonce) : n.toBytes.length = 8 :=
  length_bigEndian 8 n.toNat

theorem ofNat_toNat (n : Nonce) : (⟨UInt64.ofNat n.toNat⟩ : Nonce) = n := by
  simp [toNat]

theorem ofBytes_eq_ok_iff {bytes : List UInt8} : ofBytes bytes = .ok n ↔ bytes = n.toBytes := by
  constructor
  · intro h
    rw [ofBytes] at h
    split at h
    · rename_i hLength
      obtain rfl := Except.ok.inj h
      have hLt : ofBigEndian bytes < 2 ^ 64 := ofBigEndian_lt hLength
      rw [toBytes, toNat, UInt64.toNat_ofNat_of_lt' hLt, bigEndian_ofBigEndian hLength]
    · cases h
  · rintro rfl
    rw [ofBytes, if_pos n.length_toBytes, toBytes, ofBigEndian_bigEndian n.toNat_lt, ofNat_toNat]

/-! ## The two forms -/

theorem map_ofBytes_eq_iff :
    (Base64.decode? s).map ofBytes = some (.ok n) ↔ s = n.base64 := by
  simp [Option.map_eq_some_iff, Base64.decode?_eq_some_iff, ofBytes_eq_ok_iff, base64]

/-- **No text is of both forms.** -/
theorem not_numeral_base64 (n : Nonce) (value : Nat) : ¬Decimal.Numeral n.base64 value := by
  intro h
  have hPad : '=' ∈ n.base64 := by
    rw [base64]
    exact Base64.pad_mem_encode (by rw [length_toBytes]; decide)
  have hChar : '='.isDigit = true ∨ '=' = '+' := Decimal.isDigit_of_numeral h hPad
  exact absurd hChar (by decide)

/-! ## Reading -/

theorem parse_of_base64 (h : trim s = n.base64) : parse s = .ok n := by
  simp only [parse]
  rw [map_ofBytes_eq_iff.mpr h]

theorem parse_of_ne_base64 (h : ∀ n : Nonce, trim s ≠ n.base64) :
    parse s =
      match Decimal.read UInt64.size (trim s) with
      | .ok n => .ok ⟨UInt64.ofNat n⟩
      | .error fault => .error (.nonce (String.ofList (trim s)) fault) := by
  simp only [parse]
  split
  · rename_i n hRead
    exact absurd (map_ofBytes_eq_iff.mp hRead) (h n)
  · rfl

theorem parse_eq_ok_iff :
    parse s = .ok n ↔ trim s = n.base64 ∨ Decimal.Numeral (trim s) n.toNat := by
  by_cases hBase : ∃ m : Nonce, trim s = m.base64
  · obtain ⟨m, hText⟩ := hBase
    have hNumeral : ¬Decimal.Numeral (trim s) n.toNat := hText ▸ not_numeral_base64 m n.toNat
    constructor
    · intro h
      rw [parse_of_base64 hText] at h
      exact Or.inl (Except.ok.inj h ▸ hText)
    · exact fun h => parse_of_base64 (h.resolve_right hNumeral)
  · rw [parse_of_ne_base64 fun m hText => hBase ⟨m, hText⟩]
    constructor
    · intro h
      split at h
      · rename_i value hRead
        obtain ⟨hNumeral, hLt⟩ := (Decimal.read_eq_ok_iff (by decide)).mp hRead
        obtain rfl := Except.ok.inj h
        rw [toNat, UInt64.toNat_ofNat_of_lt' hLt]
        exact Or.inr hNumeral
      · cases h
    · rintro (hText | hNumeral)
      · exact absurd ⟨n, hText⟩ hBase
      · rw [(Decimal.read_eq_ok_iff (by decide)).mpr ⟨hNumeral, n.toNat_lt⟩]
        simp only [ofNat_toNat]

/-- A text of neither form is refused with its trimmed form named. -/
theorem parse_eq_error_iff :
    (∃ fault, parse s = .error (.nonce (String.ofList (trim s)) fault)) ↔
      ∀ n : Nonce, ¬(trim s = n.base64 ∨ Decimal.Numeral (trim s) n.toNat) := by
  constructor
  · rintro ⟨fault, hFault⟩ n hForm
    rw [parse_eq_ok_iff.mpr hForm] at hFault
    cases hFault
  · intro h
    have hRefused : ∀ n : Nonce, parse s ≠ .ok n := fun n hOk => h n (parse_eq_ok_iff.mp hOk)
    have hParse := parse_of_ne_base64 fun n hText => h n (Or.inl hText)
    rw [hParse] at hRefused ⊢
    cases hRead : Decimal.read UInt64.size (trim s) with
    | ok value => exact absurd (by rw [hRead]) (hRefused ⟨UInt64.ofNat value⟩)
    | error fault => exact ⟨fault, rfl⟩

/-! ## Written texts -/

theorem isBlank_of_isDigit {c : Char} (h : c.isDigit = true) : isBlank c = false := by
  have hDigits : ∀ code < 128, (Char.ofNat code).isDigit = true →
      isBlank (Char.ofNat code) = false := by decide
  have hCode : c.toNat < 128 := by
    have hNine : c.toNat ≤ 57 := (Char.isDigit_iff_toNat.mp h).2
    omega
  have hChar := hDigits c.toNat hCode
  rw [Char.ofNat_toNat] at hChar
  exact hChar h

theorem trim_base64 (n : Nonce) : trim n.base64 = n.base64 :=
  trim_of_no_blank (Base64.forall_mem_encode (by decide) (by decide) n.toBytes)

theorem trim_digits (value : Nat) : trim (Decimal.digits value) = Decimal.digits value :=
  trim_of_no_blank fun _ hMem =>
    isBlank_of_isDigit (Nat.isDigit_of_mem_toDigits (by decide) (by decide) hMem)

/-- **Nonces as text.** A text is read as `n` just when what stands between its blanks is the padded
base64 form of the eight bytes of `n`, or an optional plus sign and decimal digits of value `n`. No
text is of both forms, whatever the two values, and every other text is refused as no nonce. So each
nonce is read back from both of its forms. -/
theorem parse_forms (s : List Char) :
    (∀ n, parse s = .ok n ↔ trim s = n.base64 ∨ Decimal.Numeral (trim s) n.toNat) ∧
    (∀ (n : Nonce) (value : Nat), ¬(trim s = n.base64 ∧ Decimal.Numeral (trim s) value)) ∧
    ((∃ fault, parse s = .error (.nonce (String.ofList (trim s)) fault)) ↔
      ∀ n : Nonce, ¬(trim s = n.base64 ∨ Decimal.Numeral (trim s) n.toNat)) ∧
    ∀ n : Nonce, parse n.base64 = .ok n ∧ parse (Decimal.digits n.toNat) = .ok n := by
  refine ⟨fun n => parse_eq_ok_iff, ?_, parse_eq_error_iff, fun n => ⟨?_, ?_⟩⟩
  · rintro n value ⟨hText, hNumeral⟩
    exact not_numeral_base64 n value (hText ▸ hNumeral)
  · exact parse_of_base64 (trim_base64 n)
  · have hNumeral : Decimal.Numeral (trim (Decimal.digits n.toNat)) n.toNat := by
      rw [trim_digits]
      exact Decimal.numeral_digits n.toNat
    exact parse_eq_ok_iff.mpr (Or.inr hNumeral)

end TokenBridge.Nonce

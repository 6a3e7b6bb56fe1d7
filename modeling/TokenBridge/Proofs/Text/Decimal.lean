import TokenBridge.Text.Decimal

/-!
# Decimal text read back

A numeral is one or more digits after an optional plus sign, with any number of leading zeros. It is
read if its value is below the limit. Reading stops where the value so far reaches the limit, which
loses nothing: more digits never make it smaller.

* `read_eq_ok_iff`: the numerals that are read, and as what;
* `numeral_digits`: the digits of a number are a numeral of it.
-/

namespace TokenBridge.Text.Decimal

/-- One or more digits whose value is `n`. -/
def Spells (digits : List Char) (n : Nat) : Prop :=
  digits ≠ [] ∧ (∀ c ∈ digits, c.isDigit = true) ∧ Nat.ofDigitChars 10 digits 0 = n

/-- A text is digits after an optional plus sign, and their value is `n`. -/
def Numeral (s : List Char) (n : Nat) : Prop :=
  ∃ digits, (s = digits ∨ s = '+' :: digits) ∧ Spells digits n

variable {limit n value : Nat} {s : List Char}

/-! ## Digits -/

/-- More digits never make a value smaller. -/
theorem le_ofDigitChars (digits : List Char) (value : Nat) :
    value ≤ Nat.ofDigitChars 10 digits value := by
  induction digits generalizing value with
  | nil => exact Nat.le_refl value
  | cons c digits ih =>
    rw [Nat.ofDigitChars_cons]
    have := ih (10 * value + (c.toNat - '0'.toNat))
    omega

theorem readFrom_eq_ok_iff (hValue : value < limit) :
    readFrom limit value s = .ok n ↔
      (∀ c ∈ s, c.isDigit = true) ∧ Nat.ofDigitChars 10 s value = n ∧ n < limit := by
  induction s generalizing value with
  | nil =>
    rw [readFrom, Except.ok.injEq]
    constructor
    · rintro rfl
      exact ⟨by simp, rfl, hValue⟩
    · exact fun h => h.2.1
  | cons c s ih =>
    rw [readFrom, List.forall_mem_cons, Nat.ofDigitChars_cons, show '0'.toNat = 48 from rfl]
    by_cases hDigit : c.isDigit = true
    · rw [if_pos hDigit]
      by_cases hLess : 10 * value + (c.toNat - 48) < limit
      · simp only [if_pos hLess]
        rw [ih hLess]
        simp [hDigit]
      · simp only [if_neg hLess]
        constructor
        · intro h
          cases h
        · rintro ⟨-, hEq, hLt⟩
          have := le_ofDigitChars s (10 * value + (c.toNat - 48))
          omega
    · rw [if_neg hDigit]
      constructor
      · intro h
        cases h
      · exact fun h => absurd h.1.1 hDigit

theorem readFrom_zero_eq_ok_iff (hLimit : 0 < limit) (hText : s ≠ []) :
    readFrom limit 0 s = .ok n ↔ Spells s n ∧ n < limit := by
  rw [readFrom_eq_ok_iff hLimit, Spells]
  simp [hText, and_assoc]

/-! ## Numerals -/

theorem isDigit_of_numeral {c : Char} (h : Numeral s n) (hMem : c ∈ s) :
    c.isDigit = true ∨ c = '+' := by
  obtain ⟨digits, rfl | rfl, -, hDigits, -⟩ := h
  · exact Or.inl (hDigits c hMem)
  · rcases List.mem_cons.mp hMem with rfl | hMem
    · exact Or.inr rfl
    · exact Or.inl (hDigits c hMem)

theorem numeral_plus : Numeral ('+' :: s) n ↔ Spells s n := by
  constructor
  · rintro ⟨digits, rfl | hText, hSpells⟩
    · exact absurd (hSpells.2.1 '+' (by simp)) (by decide)
    · rwa [(List.cons.inj hText).2]
  · exact fun h => ⟨s, Or.inr rfl, h⟩

theorem numeral_of_unsigned (h : ∀ rest, s ≠ '+' :: rest) : Numeral s n ↔ Spells s n := by
  constructor
  · rintro ⟨digits, rfl | hText, hSpells⟩
    · exact hSpells
    · exact absurd hText (h digits)
  · exact fun hSpells => ⟨s, Or.inl rfl, hSpells⟩

/-- **What is read.** A numeral is read as its value if that is below the limit. -/
theorem read_eq_ok_iff (hLimit : 0 < limit) :
    read limit s = .ok n ↔ Numeral s n ∧ n < limit := by
  unfold read
  split
  · simp [Numeral, Spells]
  · simp [numeral_plus, Spells]
  · rename_i rest hRest
    have hText : rest ≠ [] := fun h => hRest (h ▸ rfl)
    rw [numeral_plus, readFrom_zero_eq_ok_iff hLimit hText]
  · rename_i hText _ hSign
    rw [numeral_of_unsigned hSign, readFrom_zero_eq_ok_iff hLimit hText]

theorem numeral_digits (n : Nat) : Numeral (digits n) n := by
  refine ⟨digits n, Or.inl rfl, Nat.toDigits_ne_nil, ?_, ?_⟩
  · intro c hMem
    exact Nat.isDigit_of_mem_toDigits (by decide) (by decide) hMem
  · exact Nat.ofDigitChars_toDigits (by decide) (by decide)

end TokenBridge.Text.Decimal

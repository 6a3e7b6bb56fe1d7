import TokenBridge.Json.Reader
import TokenBridge.Json.Writer

/-!
# Tokens read back

Numbers and strings that were written are read again, whatever follows them.

* `numeral?_digits`: the digits of a number of 64 bits;
* `string?_literal`: a text between its quotes, with all its escapes;
* `skip_newline`: line breaks and indentation are passed over.
-/

namespace TokenBridge.Json

/-! ## Blanks -/

theorem skip_cons {c : Char} (h : isSpace c = false) (s : List Char) : skip (c :: s) = c :: s := by
  simp [skip, h]

theorem skip_blank (s : List Char) : skip (' ' :: s) = skip s :=
  rfl

theorem skip_newline (depth : Nat) (s : List Char) : skip (newline depth ++ s) = skip s := by
  have hBlank : ∀ c ∈ newline depth, isSpace c = true := by
    intro c hMem
    rcases List.mem_cons.mp hMem with rfl | hIndent
    · rfl
    · rw [(List.mem_replicate.mp hIndent).2]
      rfl
  exact List.dropWhile_append_of_pos hBlank

/-! ## Numbers -/

/-- What follows a value: nothing, a comma or a line break. Neither goes on a number. -/
def Closes (rest : List Char) : Prop :=
  ∀ c ∈ rest.head?, c = ',' ∨ c = '\n'

theorem Closes.head_ne {c : Char} {rest : List Char} (h : Closes (c :: rest)) :
    c.isDigit = false ∧ c ≠ '.' ∧ c ≠ 'e' ∧ c ≠ 'E' := by
  rcases h c rfl with rfl | rfl <;> decide

theorem closes_comma (s : List Char) : Closes (',' :: s) :=
  fun _ h => Or.inl (Option.mem_some.mp h).symm

theorem closes_newline (depth : Nat) (s : List Char) : Closes (newline depth ++ s) :=
  fun _ h => Or.inr (Option.mem_some.mp h).symm

theorem isDigit_of_mem_digits {n : Nat} {c : Char} (h : c ∈ Nat.toDigits 10 n) :
    c.isDigit = true :=
  Nat.isDigit_of_mem_toDigits (by decide) (by decide) h

theorem digits_eq_cons (n : Nat) :
    ∃ c rest, Nat.toDigits 10 n = c :: rest ∧ c.isDigit = true := by
  obtain ⟨c, rest, hDigits⟩ := List.exists_cons_of_ne_nil (Nat.toDigits_ne_nil (n := n) (b := 10))
  exact ⟨c, rest, hDigits, isDigit_of_mem_digits (hDigits ▸ List.mem_cons_self)⟩

theorem spanDigits_append {digits rest : List Char} (hDigits : ∀ c ∈ digits, c.isDigit = true)
    (hRest : Closes rest) : spanDigits (digits ++ rest) = (digits, rest) := by
  have hStop : rest.takeWhile Char.isDigit = [] ∧ rest.dropWhile Char.isDigit = rest := by
    cases rest with
    | nil => exact ⟨rfl, rfl⟩
    | cons c rest => simp [hRest.head_ne.1]
  rw [spanDigits, List.takeWhile_append_of_pos hDigits, List.dropWhile_append_of_pos hDigits,
    hStop.1, hStop.2, List.append_nil]

/-- Only zero is written with a leading zero. -/
theorem digits_cases (n : Nat) :
    Nat.toDigits 10 n = ['0'] ∨ ∃ c rest, Nat.toDigits 10 n = c :: rest ∧ c ≠ '0' := by
  induction n using Nat.base_induction 10 (by decide) with
  | single n hn =>
    rw [Nat.toDigits_of_lt_base hn]
    rcases Nat.eq_zero_or_pos n with rfl | hPos
    · exact Or.inl rfl
    · refine Or.inr ⟨_, _, rfl, ?_⟩
      revert n
      decide
  | digit n k hDigit hPos ih =>
    rw [← Nat.toDigits_append_toDigits (by decide) hPos hDigit]
    rcases ih with hZero | ⟨c, rest, hDigits, hFirst⟩
    · have hValue : Nat.ofDigitChars 10 (Nat.toDigits 10 n) 0 = 0 := by rw [hZero]; rfl
      rw [Nat.ofDigitChars_ten_toDigits] at hValue
      omega
    · exact Or.inr ⟨c, rest ++ Nat.toDigits 10 k, by rw [hDigits, List.cons_append], hFirst⟩

theorem le_ofDigitChars (digits : List Char) (m : Nat) : m ≤ Nat.ofDigitChars 10 digits m := by
  rw [Nat.ofDigitChars_eq_ofDigitChars_zero]
  exact Nat.le_add_right_of_le (Nat.le_mul_of_pos_left m (Nat.pow_pos (by decide)))

theorem takeIn_digits {digits : List Char} {m : Nat}
    (h : Nat.ofDigitChars 10 digits m < UInt64.size) :
    Numeral.takeIn m digits = (Nat.ofDigitChars 10 digits m, []) := by
  induction digits generalizing m with
  | nil => rfl
  | cons c rest ih =>
    rw [Nat.ofDigitChars_cons] at h ⊢
    have hRoom : 10 * m + (c.toNat - 48) < UInt64.size :=
      Nat.lt_of_le_of_lt (le_ofDigitChars rest _) h
    rw [Numeral.takeIn]
    simp only [if_pos hRoom]
    exact ih h

theorem wholeDigits?_digits (n : Nat) {rest : List Char} (hRest : Closes rest) :
    wholeDigits? (Nat.toDigits 10 n ++ rest) = some (Nat.toDigits 10 n, rest) := by
  rw [wholeDigits?, spanDigits_append (fun c => isDigit_of_mem_digits) hRest]
  rcases digits_cases n with hZero | ⟨c, tail, hDigits, hFirst⟩
  · rw [hZero]
    rfl
  · rw [hDigits]
    split <;> simp_all

theorem fractionDigits?_closes {rest : List Char} (h : Closes rest) :
    fractionDigits? rest = some (none, rest) := by
  cases rest with
  | nil => rfl
  | cons c rest =>
    rw [fractionDigits?]
    intro tail hTail
    exact h.head_ne.2.1 (List.cons.inj hTail).1

theorem exponent?_closes {rest : List Char} (h : Closes rest) :
    exponent? rest = some (none, rest) := by
  cases rest with
  | nil => rfl
  | cons c rest =>
    have hNone : ¬(c = 'e' ∨ c = 'E') := not_or.mpr h.head_ne.2.2
    unfold exponent?
    exact if_neg hNone

/-- **A number of 64 bits is read back.** -/
theorem numeral?_digits {n : Nat} (h : n < UInt64.size) {rest : List Char} (hRest : Closes rest) :
    numeral? (Nat.toDigits 10 n ++ rest) = some (.ofNat n, rest) := by
  have hValue : Nat.ofDigitChars 10 (Nat.toDigits 10 n) 0 = n := Nat.ofDigitChars_ten_toDigits
  have hTaken := takeIn_digits (hValue.symm ▸ h)
  rw [hValue] at hTaken
  have hSign : ∀ tail, Nat.toDigits 10 n ++ rest ≠ '-' :: tail := by
    intro tail hEq
    obtain ⟨c, digits, hDigits, hDigit⟩ := digits_eq_cons n
    rw [hDigits, List.cons_append] at hEq
    obtain rfl := (List.cons.inj hEq).1
    cases hDigit
  unfold numeral?
  split
  rename_i negative s hSplit
  split at hSplit
  · rename_i hEq
    exact absurd hEq (hSign _)
  · obtain ⟨rfl, rfl⟩ := Prod.mk.inj hSplit
    simp [wholeDigits?_digits n hRest, fractionDigits?_closes hRest, exponent?_closes hRest,
      Numeral.ofDigits, Numeral.takeIn, hTaken, Numeral.ofNat]

/-! ## Strings -/

theorem unit?_control {n : Nat} (h : n < 0x20) :
    unit? '0' '0' (Nat.digitChar (n / 16)) (Nat.digitChar (n % 16)) = some n := by
  revert n
  decide

/-- A character is written by a letter, by its digits, or as it is. -/
theorem escaped_cases (c : Char) :
    (∃ letter, escaped c = ['\\', letter] ∧ letter ≠ 'u' ∧ escape? letter = some c) ∨
    (c.toNat < 0x20 ∧ escaped c =
      ['\\', 'u', '0', '0', Nat.digitChar (c.toNat / 16), Nat.digitChar (c.toNat % 16)]) ∨
    (escaped c = [c] ∧ c ≠ '"' ∧ c ≠ '\\' ∧ 0x20 ≤ c.toNat) := by
  rw [escaped]
  -- the quote, the backslash and the five control characters that have a letter
  iterate 7
    split
    · subst c
      exact Or.inl ⟨_, rfl, by decide, rfl⟩
  split
  · exact Or.inr (Or.inl ⟨‹_›, rfl⟩)
  · exact Or.inr (Or.inr ⟨rfl, ‹¬c = '"'›, ‹¬c = '\\'›, Nat.not_lt.mp ‹_›⟩)

/-- A character is read back from its escape, and none stands bare that should not. -/
theorem codes?_escaped (c : Char) (rest : List Char) :
    codes? (escaped c ++ rest) =
      (codes? rest).map fun read => (c.toNat :: read.1, read.2.1, read.2.2) := by
  rcases escaped_cases c with ⟨letter, hEscape, hLetter, hRead⟩ | ⟨hControl, hEscape⟩ |
    ⟨hEscape, hQuote, hSlash, hVisible⟩
  · rw [hEscape]
    show codes? ('\\' :: letter :: rest) = _
    rw [codes?, hRead]
    · cases codes? rest <;> rfl
    · intro a b c d tail hUnit
      exact absurd hUnit hLetter
  · rw [hEscape]
    show codes? ('\\' :: 'u' :: '0' :: '0' :: _ :: _ :: rest) = _
    rw [codes?, unit?_control hControl]
    cases codes? rest <;> rfl
  · have hBare : (c == '\\') = false := beq_eq_false_iff_ne.mpr hSlash
    rw [hEscape]
    show codes? (c :: rest) = _
    rw [codes?]
    · rw [if_neg hSlash]
      cases codes? rest with
      | none => rfl
      | some read => simp [Nat.not_lt.mpr hVisible]
    · exact hQuote
    · intro _ _ _ _ _ hEq
      exact absurd hEq hSlash
    · intro _ _ hEq
      exact absurd hEq hSlash

/-- A written text is read back as the codes of its characters. -/
theorem codes?_literal (s rest : List Char) :
    codes? (s.flatMap escaped ++ '"' :: rest) = some (s.map Char.toNat, false, rest) := by
  induction s with
  | nil => rfl
  | cons c s ih => rw [List.flatMap_cons, List.append_assoc, codes?_escaped, ih]; rfl

/-- No character is half of a surrogate pair. -/
theorem isHalf_toNat (c : Char) : Text.isHalf c.toNat = false := by
  have hValid : c.toNat < 0xd800 ∨ 0xdfff < c.toNat ∧ c.toNat < 0x110000 := c.valid
  rw [Text.isHalf, Bool.and_eq_false_iff, decide_eq_false_iff_not, decide_eq_false_iff_not]
  omega

theorem joinHalves_of_forall {codes : List Nat}
    (h : ∀ code ∈ codes, Text.isHalf code = false) : joinHalves codes = codes := by
  induction codes using joinHalves.induct with
  | case1 high low rest hPair ih =>
    have hHigh := h high List.mem_cons_self
    simp [Text.isHalf] at hHigh
    omega
  | case2 high low rest hApart ih =>
    rw [joinHalves, if_neg hApart, ih fun code hMem => h code (List.mem_cons_of_mem high hMem)]
  | case3 codes hShort =>
    rw [joinHalves]
    exact hShort

/-- **A text is read back from its literal.** -/
theorem string?_literal (s : String) (rest : List Char) :
    string? (s.toList.flatMap escaped ++ '"' :: rest) = some (.text s, rest) := by
  have hWhole : ∀ code ∈ s.toList.map Char.toNat, Text.isHalf code = false := by
    intro code hMem
    obtain ⟨c, -, rfl⟩ := List.mem_map.mp hMem
    exact isHalf_toNat c
  simp [string?, codes?_literal, joinHalves_of_forall hWhole, literalOf, isHalf_toNat,
    Function.comp_def]

end TokenBridge.Json

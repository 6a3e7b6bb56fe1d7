import TokenBridge.Text.Base64

/-!
# Base64 text read back

Bytes have one padded text. What is decoded is the text of what comes out, since the padding is
asked for and the bits that a last group has too many must be zero.

* `sextet?_eq_some_iff`: the alphabet has one character for each number below sixty-four;
* `decode?_eq_some_iff`: a text is decoded to just the bytes that are encoded as it;
* `pad_mem_encode`: the text of bytes that leave their last group open has a pad in it.
-/

namespace TokenBridge.Text.Base64

/-! ## The alphabet -/

theorem lt_of_sextet? {c : Char} {n : Nat} (h : sextet? c = some n) : c.toNat < 128 := by
  by_cases hMark : c = '+' ∨ c = '/'
  · rcases hMark with rfl | rfl <;> decide
  · rw [sextet?] at h
    grind

/-- **The alphabet.** -/
theorem sextet?_eq_some_iff {c : Char} {n : Nat} :
    sextet? c = some n ↔ n < 64 ∧ c = sextetChar n := by
  constructor
  · intro h
    have hAscii : ∀ code < 128, ∀ n ∈ sextet? (Char.ofNat code),
        n < 64 ∧ Char.ofNat code = sextetChar n := by decide
    have hChar := hAscii c.toNat (lt_of_sextet? h) n
    rw [Char.ofNat_toNat] at hChar
    exact hChar h
  · rintro ⟨hLt, rfl⟩
    revert n
    decide

theorem sextet?_sextetChar {n : Nat} (h : n < 64) : sextet? (sextetChar n) = some n :=
  sextet?_eq_some_iff.mpr ⟨h, rfl⟩

theorem sextetChar_ne_pad {n : Nat} (h : n < 64) : sextetChar n ≠ '=' := by
  revert n
  decide

/-! ## Bytes of groups -/

theorem toNat_byte {n : Nat} (h : n < 256) : (UInt8.ofNat n).toNat = n := by
  simp only [UInt8.toNat_ofNat']
  omega

theorem byte_eq (byte : UInt8) {n : Nat} (h : n = byte.toNat) : UInt8.ofNat n = byte := by
  rw [h, UInt8.ofNat_toNat]

theorem decode?_group {x y z w : Nat} {rest : List Char} {bytes : List UInt8} (hx : x < 64)
    (hy : y < 64) (hz : z < 64) (hw : w < 64) (hRest : decode? rest = some bytes) :
    decode? (sextetChar x :: sextetChar y :: sextetChar z :: sextetChar w :: rest) =
      some (UInt8.ofNat (4 * x + y / 16) :: UInt8.ofNat (y % 16 * 16 + z / 4) ::
        UInt8.ofNat (z % 4 * 64 + w) :: bytes) := by
  rw [decode?]
  · simp [sextet?_sextetChar, *]
  · simp [sextetChar_ne_pad hw]
  · simp [sextetChar_ne_pad hw]

/-! ## Whole texts -/

theorem decode?_encode (bytes : List UInt8) : decode? (encode bytes) = some bytes := by
  fun_induction encode bytes with
  | case1 a b c rest ih =>
    have := a.toNat_lt
    have := b.toNat_lt
    have := c.toNat_lt
    rw [decode?_group (by omega) (by omega) (by omega) (by omega) ih, byte_eq a (by omega),
      byte_eq b (by omega), byte_eq c (by omega)]
  | case2 a b =>
    have := a.toNat_lt
    have := b.toNat_lt
    have hOpen : sextetChar (b.toNat % 16 * 4) ≠ '=' := sextetChar_ne_pad (by omega)
    rw [decode?]
    · rw [sextet?_sextetChar (by omega), sextet?_sextetChar (by omega),
        sextet?_sextetChar (by omega)]
      simp only [Option.bind_eq_bind, Option.bind_some]
      rw [if_pos (by omega), byte_eq a (by omega), byte_eq b (by omega)]
    · exact hOpen
  | case3 a =>
    have := a.toNat_lt
    rw [decode?, sextet?_sextetChar (by omega), sextet?_sextetChar (by omega)]
    simp only [Option.bind_eq_bind, Option.bind_some]
    rw [if_pos (by omega), byte_eq a (by omega)]
  | case4 => rfl

theorem eq_encode_of_decode? {t : List Char} {bytes : List UInt8} (h : decode? t = some bytes) :
    t = encode bytes := by
  fun_induction decode? t generalizing bytes with
  | case1 => simp_all [encode]
  | case2 a b =>
    simp only [Option.bind_eq_bind, Option.bind_eq_some_iff, sextet?_eq_some_iff,
      Option.ite_none_right_eq_some, Option.some.injEq] at h
    obtain ⟨x, ⟨hx, rfl⟩, y, ⟨hy, rfl⟩, hSpare, rfl⟩ := h
    rw [encode, toNat_byte (by omega), show (4 * x + y / 16) / 4 = x by omega,
      show (4 * x + y / 16) % 4 * 16 = y by omega]
  | case3 a b c =>
    simp only [Option.bind_eq_bind, Option.bind_eq_some_iff, sextet?_eq_some_iff,
      Option.ite_none_right_eq_some, Option.some.injEq] at h
    obtain ⟨x, ⟨hx, rfl⟩, y, ⟨hy, rfl⟩, z, ⟨hz, rfl⟩, hSpare, rfl⟩ := h
    rw [encode, toNat_byte (by omega), toNat_byte (by omega),
      show (4 * x + y / 16) / 4 = x by omega,
      show (4 * x + y / 16) % 4 * 16 + (y % 16 * 16 + z / 4) / 16 = y by omega,
      show (y % 16 * 16 + z / 4) % 16 * 4 = z by omega]
  | case4 a b c d rest _ _ ih =>
    simp only [Option.bind_eq_bind, Option.bind_eq_some_iff, sextet?_eq_some_iff,
      Option.some.injEq] at h
    obtain ⟨x, ⟨hx, rfl⟩, y, ⟨hy, rfl⟩, z, ⟨hz, rfl⟩, w, ⟨hw, rfl⟩, tail, hRest, rfl⟩ := h
    rw [encode, toNat_byte (by omega), toNat_byte (by omega), toNat_byte (by omega),
      show (4 * x + y / 16) / 4 = x by omega,
      show (4 * x + y / 16) % 4 * 16 + (y % 16 * 16 + z / 4) / 16 = y by omega,
      show (y % 16 * 16 + z / 4) % 16 * 4 + (z % 4 * 64 + w) / 64 = z by omega,
      show (z % 4 * 64 + w) % 64 = w by omega, ih hRest]
  | case5 => cases h

/-- **Decoding undoes encoding and nothing else.** -/
theorem decode?_eq_some_iff {t : List Char} {bytes : List UInt8} :
    decode? t = some bytes ↔ t = encode bytes :=
  ⟨eq_encode_of_decode?, fun h => h ▸ decode?_encode bytes⟩

/-- What holds of the alphabet and of the pad holds of every character of a text. -/
theorem forall_mem_encode {P : Char → Prop} (hPad : P '=') (hAlphabet : ∀ n < 64, P (sextetChar n))
    (bytes : List UInt8) : ∀ c ∈ encode bytes, P c := by
  fun_induction encode bytes with
  | case1 a b c rest ih =>
    have := a.toNat_lt
    have := b.toNat_lt
    have := c.toNat_lt
    simp only [List.forall_mem_cons]
    exact ⟨hAlphabet _ (by omega), hAlphabet _ (by omega), hAlphabet _ (by omega),
      hAlphabet _ (by omega), ih⟩
  | case2 a b =>
    have := a.toNat_lt
    have := b.toNat_lt
    simp only [List.forall_mem_cons]
    exact ⟨hAlphabet _ (by omega), hAlphabet _ (by omega), hAlphabet _ (by omega), hPad, by simp⟩
  | case3 a =>
    have := a.toNat_lt
    simp only [List.forall_mem_cons]
    exact ⟨hAlphabet _ (by omega), hAlphabet _ (by omega), hPad, hPad, by simp⟩
  | case4 => simp

/-- A last group that is not full has a pad in it. -/
theorem pad_mem_encode {bytes : List UInt8} (h : bytes.length % 3 ≠ 0) : '=' ∈ encode bytes := by
  fun_induction encode bytes with
  | case1 a b c rest ih =>
    have hRest : rest.length % 3 ≠ 0 := by
      simp only [List.length_cons] at h
      omega
    simp [ih hRest]
  | case2 a b => simp
  | case3 a => simp
  | case4 => exact absurd rfl h

end TokenBridge.Text.Base64

import TokenBridge.Abi
import Mathlib.Algebra.Ring.Nat
import Mathlib.Data.List.Forall2

/-!
# What an encoding tells of its arguments

An encoding is read here by its length alone and then place by place. Arguments that take the same
room have their heads and their tails at the same places, so equal encodings have equal arguments.

* `layout_map_word`, `Arg.tail_words`: how words and arrays of words are laid out;
* `length_encode`: the length of an encoding;
* `layout_injective`, `encode_injective`: arguments that take the same room are told apart;
* `words_eq_of_encode`: words at the front are told apart whatever follows them;
* `tag_eq_ok`: the texts that fit in a word, and the bytes of that word.
-/

namespace TokenBridge

namespace Abi

/-! ## Words -/

theorem length_flatMap_toBytes (ws : List (Word 32)) :
    (ws.flatMap Word.toBytes).length = 32 * ws.length := by
  induction ws with
  | nil => rfl
  | cons w ws ih =>
    rw [List.flatMap_cons, List.length_append, Word.length_toBytes, ih, List.length_cons]
    omega

theorem flatMap_toBytes_injective {vs ws : List (Word 32)} {more more' : List UInt8}
    (hLength : vs.length = ws.length)
    (h : vs.flatMap Word.toBytes ++ more = ws.flatMap Word.toBytes ++ more') :
    vs = ws ∧ more = more' := by
  induction vs generalizing ws with
  | nil =>
    have hNil : ws = [] := List.length_eq_zero_iff.mp hLength.symm
    subst hNil
    exact ⟨rfl, h⟩
  | cons v vs ih =>
    cases ws with
    | nil => cases hLength
    | cons w ws =>
      rw [List.flatMap_cons, List.flatMap_cons, List.append_assoc, List.append_assoc] at h
      have hRoom : v.toBytes.length = w.toBytes.length := by
        rw [Word.length_toBytes, Word.length_toBytes]
      obtain ⟨hFirst, hRest⟩ := List.append_inj h hRoom
      obtain ⟨rfl, hMore⟩ := ih (Nat.succ.inj hLength) hRest
      exact ⟨by rw [Word.toBytes_injective hFirst], hMore⟩

/-- The word of a number that has less bytes tells the number. -/
theorem ofNat_word_injective {m n : Nat} (hm : m < Nat.pow 256 20) (hn : n < Nat.pow 256 20)
    (h : Word.ofNat 32 m = Word.ofNat 32 n) : m = n := by
  have hWiden : Nat.pow 256 20 ≤ Nat.pow 256 32 := by decide
  rw [← Word.toNat_ofNat (Nat.lt_of_lt_of_le hm hWiden), h,
    Word.toNat_ofNat (Nat.lt_of_lt_of_le hn hWiden)]

theorem uint64_word_injective {m n : UInt64}
    (h : Word.ofNat 32 m.toNat = Word.ofNat 32 n.toNat) : m = n := by
  have hRange : UInt64.size ≤ Nat.pow 256 20 := by decide
  exact UInt64.toNat_inj.mp (ofNat_word_injective
    (Nat.lt_of_lt_of_le m.toNat_lt hRange) (Nat.lt_of_lt_of_le n.toNat_lt hRange) h)

theorem address_word_injective {a b : EthAddress}
    (h : Word.ofNat 32 a.word.toNat = Word.ofNat 32 b.word.toNat) : a = b := by
  obtain ⟨v⟩ := a
  obtain ⟨w⟩ := b
  exact congrArg Address.mk (Word.ext (ofNat_word_injective v.isLt w.isLt h))

theorem amount_word_injective {a b : Amount} (h : a.word = b.word) : a = b :=
  Amount.ext (congrArg Word.toNat h)

/-! ## Layout -/

/-- An array of words. -/
def Arg.words (ws : List (Word 32)) : Arg :=
  .array (ws.map .word)

theorem layout_cons (offset : Nat) (arg : Arg) (rest : List Arg) :
    layout offset (arg :: rest) =
      (arg.head offset ++ (layout (offset + arg.tail.length) rest).1,
        arg.tail ++ (layout (offset + arg.tail.length) rest).2) := by
  rw [layout]

/-- Words have no tails: laid out, they follow each other. -/
theorem layout_map_word (offset : Nat) (ws : List (Word 32)) :
    layout offset (ws.map .word) = (ws.flatMap Word.toBytes, []) := by
  induction ws generalizing offset with
  | nil => rfl
  | cons w ws ih =>
    rw [List.map_cons, layout_cons, ih]
    rfl

theorem Arg.tail_words (ws : List (Word 32)) :
    (Arg.words ws).tail = bigEndian 32 ws.length ++ ws.flatMap Word.toBytes := by
  rw [Arg.words, Arg.tail, layout_map_word, List.length_map]
  exact List.append_nil _

@[simp] theorem Arg.length_tail_word (w : Word 32) : (Arg.word w).tail.length = 0 := rfl

@[simp] theorem Arg.length_tail_words (ws : List (Word 32)) :
    (Arg.words ws).tail.length = 32 + 32 * ws.length := by
  rw [Arg.tail_words, List.length_append, length_bigEndian, length_flatMap_toBytes]

theorem Arg.length_head (offset : Nat) (arg : Arg) : (arg.head offset).length = 32 := by
  cases arg with
  | word w => exact Word.length_toBytes w
  | array items => exact length_bigEndian 32 offset

theorem length_heads (offset : Nat) (args : List Arg) :
    (layout offset args).1.length = 32 * args.length := by
  induction args generalizing offset with
  | nil => rfl
  | cons arg rest ih =>
    rw [layout_cons, List.length_append, Arg.length_head, ih, List.length_cons]
    omega

theorem length_tails (offset : Nat) (args : List Arg) :
    (layout offset args).2.length = (args.map fun arg => arg.tail.length).sum := by
  induction args generalizing offset with
  | nil => rfl
  | cons arg rest ih =>
    rw [layout_cons, List.length_append, ih, List.map_cons, List.sum_cons]

theorem encode_eq (args : List Arg) :
    encode args =
      (layout (32 * args.length) args).1 ++ (layout (32 * args.length) args).2 := rfl

/-- One word an argument, and the tails. -/
theorem length_encode (args : List Arg) :
    (encode args).length = 32 * args.length + (args.map fun arg => arg.tail.length).sum := by
  rw [encode_eq, List.length_append, length_heads, length_tails]

/-! ## Arguments that take the same room -/

/-- Both arguments are a word, or both are an array of as many words. -/
inductive Arg.Alike : Arg → Arg → Prop where
  | word (v w : Word 32) : Alike (.word v) (.word w)
  | words {vs ws : List (Word 32)} (hLength : vs.length = ws.length) :
      Alike (.words vs) (.words ws)

theorem Arg.Alike.length_tail {a b : Arg} (h : a.Alike b) : a.tail.length = b.tail.length := by
  cases h with
  | word v w => rfl
  | words hLength => rw [length_tail_words, length_tail_words, hLength]

/-- Head and tail of an argument tell it from one that takes the same room. -/
theorem Arg.Alike.eq {a b : Arg} {offset : Nat} (h : a.Alike b)
    (hHead : a.head offset = b.head offset) (hTail : a.tail = b.tail) : a = b := by
  cases h with
  | word v w => exact congrArg Arg.word (Word.toBytes_injective hHead)
  | @words vs ws hLength =>
    rw [tail_words, tail_words, hLength] at hTail
    have hWords := List.append_cancel_left hTail
    rw [← List.append_nil (vs.flatMap _), ← List.append_nil (ws.flatMap _)] at hWords
    rw [(flatMap_toBytes_injective hLength hWords).1]

theorem layout_injective {as bs : List Arg} {offset : Nat} (hAlike : List.Forall₂ Arg.Alike as bs)
    (h : layout offset as = layout offset bs) : as = bs := by
  induction hAlike generalizing offset with
  | nil => rfl
  | @cons a b as bs hFirst hRest ih =>
    rw [layout_cons, layout_cons, hFirst.length_tail, Prod.mk.injEq] at h
    obtain ⟨hHeads, hTails⟩ := h
    have hRoom : (a.head offset).length = (b.head offset).length := by
      rw [Arg.length_head, Arg.length_head]
    obtain ⟨hHead, hHeads⟩ := List.append_inj hHeads hRoom
    obtain ⟨hTail, hTails⟩ := List.append_inj hTails hFirst.length_tail
    rw [hFirst.eq hHead hTail, ih (Prod.ext hHeads hTails)]

/-- Equal encodings of arguments that take the same room have equal arguments. -/
theorem encode_injective {as bs : List Arg} (hAlike : List.Forall₂ Arg.Alike as bs)
    (h : encode as = encode bs) : as = bs := by
  have hCount : as.length = bs.length := hAlike.length_eq
  rw [encode_eq, encode_eq, hCount] at h
  have hRoom : (layout (32 * bs.length) as).1.length = (layout (32 * bs.length) bs).1.length := by
    rw [length_heads, length_heads, hCount]
  obtain ⟨hHeads, hTails⟩ := List.append_inj h hRoom
  exact layout_injective hAlike (Prod.ext hHeads hTails)

/-! ## The front of an encoding -/

theorem heads_words_append (offset : Nat) (ws : List (Word 32)) (args : List Arg) :
    (layout offset (ws.map .word ++ args)).1 =
      ws.flatMap Word.toBytes ++ (layout offset args).1 := by
  induction ws with
  | nil => rfl
  | cons w ws ih =>
    rw [List.map_cons, List.cons_append, layout_cons, List.flatMap_cons, List.append_assoc, ← ih]
    rfl

/-- Words at the front are told apart, also where the arguments after them take different room. -/
theorem words_eq_of_encode {vs ws : List (Word 32)} {as bs : List Arg}
    (hLength : vs.length = ws.length)
    (h : encode (vs.map .word ++ as) = encode (ws.map .word ++ bs)) : vs = ws := by
  rw [encode_eq, encode_eq, heads_words_append, heads_words_append, List.append_assoc,
    List.append_assoc] at h
  exact (flatMap_toBytes_injective hLength h).1

/-! ## Texts in a word -/

/-- The bytes of a text, filled up to a word with zeros at the end. -/
def padded (s : String) : List UInt8 :=
  Text.utf8 s.toList ++ List.replicate (32 - (Text.utf8 s.toList).length) 0

/-- A text fits in a word if it has at most 32 bytes, and the word has the filled up bytes. -/
theorem tag_eq_ok {s : String} {d : Digest} :
    tag s = .ok d ↔ (Text.utf8 s.toList).length ≤ 32 ∧ d.toBytes = padded s := by
  rw [tag]
  by_cases hFits : (Text.utf8 s.toList).length ≤ 32
  · have hLength : (padded s).length = 32 := by
      rw [padded, List.length_append, List.length_replicate]
      omega
    have hBytes : (Word.ofNat 32 (ofBigEndian (padded s))).toBytes = padded s := by
      rw [Word.toBytes, Word.toNat_ofNat (ofBigEndian_lt hLength), bigEndian_ofBigEndian hLength]
    show (if _ then Except.ok (Word.ofNat 32 (ofBigEndian (padded s))) else _) = _ ↔ _
    rw [if_pos hFits, Except.ok.injEq]
    constructor
    · rintro rfl
      exact ⟨hFits, hBytes⟩
    · rintro ⟨-, h⟩
      exact Word.toBytes_injective (hBytes.trans h.symm)
  · show (if _ then _ else Except.error _) = _ ↔ _
    rw [if_neg hFits]
    constructor
    · intro h
      cases h
    · exact fun h => absurd h.1 hFits

theorem exists_tag {s : String} (hFits : (Text.utf8 s.toList).length ≤ 32) :
    ∃ d, tag s = .ok d ∧ d.toBytes = padded s := by
  have hTag : tag s = .ok (.ofNat 32 (ofBigEndian (padded s))) := if_pos hFits
  exact ⟨_, hTag, (tag_eq_ok.mp hTag).2⟩

end Abi

end TokenBridge

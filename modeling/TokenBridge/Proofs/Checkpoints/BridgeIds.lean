import TokenBridge.Proofs.Checkpoints.Preimages
import Mathlib.Data.List.DropRight

/-!
# Ids that keep bridges apart

What signers signed for one bridge counts on another one if it has the same preimage there. The id
is filled up to a word with zeros, so zeros at the end of an id are lost: two valid ids that differ
in them only give every subject the same preimage, and all other pairs of ids keep whatever is
signed apart.

* `Abi.trimmed`: an id without the zeros at its end;
* `Abi.padded_eq_iff`: filled up texts are equal if the trimmed ones are;
* `Subject.preimage_ne`, `Subject.preimage_congr`: what different and equal words of the id mean;
* `Params.preimage_ne_of_ne`: different ids that do not end in a zero;
* `Params.ids_separate`: the statement for all valid settings.
-/

namespace TokenBridge

namespace Abi

variable {s t : String}

/-- The characters of a text without the zeros at its end. -/
def trimmed (s : String) : List Char :=
  s.toList.rdropWhile (· == '\x00')

theorem trimmed_eq_self (h : s.toList.getLast? ≠ some '\x00') : trimmed s = s.toList := by
  rw [trimmed, List.rdropWhile_eq_self_iff]
  intro hText hZero
  exact h (by rw [List.getLast?_eq_some_getLast hText, eq_of_beq hZero])

theorem rdropWhile_append_zeros (l : List Char) (n : Nat) :
    (l ++ List.replicate n '\x00').rdropWhile (· == '\x00') = l.rdropWhile (· == '\x00') := by
  induction n with
  | zero => rw [List.replicate_zero, List.append_nil]
  | succ n ih =>
    rw [List.replicate_succ', ← List.append_assoc, List.rdropWhile_concat_pos _ _ _ rfl, ih]

theorem exists_eq_trimmed_append (s : String) :
    ∃ n, s.toList = trimmed s ++ List.replicate n '\x00' := by
  have hZeros : ∀ c ∈ s.toList.rtakeWhile (· == '\x00'), c = '\x00' :=
    fun c hc => eq_of_beq (List.mem_rtakeWhile_imp (p := (· == '\x00')) hc)
  refine ⟨(s.toList.rtakeWhile (· == '\x00')).length, ?_⟩
  rw [← List.eq_replicate_of_mem hZeros]
  exact List.rdropWhile_append_rtakeWhile.symm

/-- A zero is one byte. -/
theorem utf8_append_zeros (l : List Char) (n : Nat) :
    Text.utf8 (l ++ List.replicate n '\x00') = Text.utf8 l ++ List.replicate n 0 := by
  have hZeros : Text.utf8 (List.replicate n '\x00') = List.replicate n 0 := by
    induction n with
    | zero => rfl
    | succ n ih => exact congrArg (List.cons 0) ih
  rw [Text.utf8_append, hZeros]

/-- Of two texts with the same filled up bytes the longer one has zeros more at its end. -/
theorem eq_append_zeros {l l' : List Char} {m n : Nat} (hLe : m ≤ n)
    (h : Text.utf8 l ++ List.replicate m 0 = Text.utf8 l' ++ List.replicate n 0) :
    l = l' ++ List.replicate (n - m) '\x00' := by
  have hSplit : List.replicate n (0 : UInt8) =
      List.replicate (n - m) 0 ++ List.replicate m 0 := by
    rw [List.replicate_append_replicate, Nat.sub_add_cancel hLe]
  rw [hSplit, ← List.append_assoc, ← utf8_append_zeros l' (n - m)] at h
  exact Text.utf8_injective (List.append_cancel_right h)

theorem padded_eq_trimmed (hFits : (Text.utf8 s.toList).length ≤ 32) :
    padded s = Text.utf8 (trimmed s) ++
      List.replicate (32 - (Text.utf8 (trimmed s)).length) 0 := by
  obtain ⟨n, hText⟩ := exists_eq_trimmed_append s
  have hBytes : Text.utf8 s.toList = Text.utf8 (trimmed s) ++ List.replicate n 0 := by
    rw [← utf8_append_zeros, ← hText]
  have hLength : (Text.utf8 s.toList).length = (Text.utf8 (trimmed s)).length + n := by
    rw [hBytes, List.length_append, List.length_replicate]
  rw [padded, hBytes, List.append_assoc, List.replicate_append_replicate, List.length_append,
    List.length_replicate]
  congr 2
  omega

/-- Texts that fit in a word have the same one exactly if they differ in zeros at the end only. -/
theorem padded_eq_iff (hs : (Text.utf8 s.toList).length ≤ 32)
    (ht : (Text.utf8 t.toList).length ≤ 32) : padded s = padded t ↔ trimmed s = trimmed t := by
  constructor
  · intro h
    rw [padded, padded] at h
    -- the text with less room left to fill up is the longer one
    rcases Nat.le_total (32 - (Text.utf8 s.toList).length) (32 - (Text.utf8 t.toList).length) with
      hLe | hLe
    · rw [trimmed, eq_append_zeros hLe h, rdropWhile_append_zeros, trimmed]
    · rw [trimmed, trimmed, eq_append_zeros hLe h.symm, rdropWhile_append_zeros]
  · intro h
    rw [padded_eq_trimmed hs, padded_eq_trimmed ht, h]

end Abi

namespace Subject

variable {id id' : String}

/-- Under ids with different words no two subjects have one preimage. -/
theorem preimage_ne (hApart : Abi.padded id ≠ Abi.padded id') {x y : Subject}
    {bytes bytes' : List UInt8} (hx : x.preimage id = .ok bytes)
    (hy : y.preimage id' = .ok bytes') : bytes ≠ bytes' := by
  rintro rfl
  obtain ⟨word, _, hWord, -, hBytes⟩ := preimage_eq_ok.mp hx
  obtain ⟨word', _, hWord', -, hBytes'⟩ := preimage_eq_ok.mp hy
  have hSame : word = word' := (words_eq_of_encode (hBytes.trans hBytes'.symm)).1
  rw [← hSame] at hWord'
  exact hApart ((Abi.tag_eq_ok.mp hWord).2.symm.trans (Abi.tag_eq_ok.mp hWord').2)

theorem preimage_congr (hSame : Abi.padded id = Abi.padded id')
    (hFits' : (Text.utf8 id'.toList).length ≤ 32) {x : Subject} {bytes : List UInt8}
    (hx : x.preimage id = .ok bytes) : x.preimage id' = .ok bytes := by
  obtain ⟨word, kind, hWord, hKind, hBytes⟩ := preimage_eq_ok.mp hx
  have hWord' : Abi.tag id' = .ok word :=
    Abi.tag_eq_ok.mpr ⟨hFits', (Abi.tag_eq_ok.mp hWord).2.trans hSame⟩
  exact preimage_eq_ok.mpr ⟨word, kind, hWord', hKind, hBytes⟩

end Subject

/-- Different valid ids of which none ends in a zero keep all preimages apart. -/
theorem Params.preimage_ne_of_ne {p q : Params} (hp : p.validate = .ok ())
    (hq : q.validate = .ok ()) (hEnd : p.bridgeId.toList.getLast? ≠ some '\x00')
    (hEnd' : q.bridgeId.toList.getLast? ≠ some '\x00') (hApart : p.bridgeId ≠ q.bridgeId)
    {x y : Subject} {bytes bytes' : List UInt8} (hx : x.preimage p.bridgeId = .ok bytes)
    (hy : y.preimage q.bridgeId = .ok bytes') : bytes ≠ bytes' := by
  refine Subject.preimage_ne (fun hPadded => hApart (String.toList_inj.mp ?_)) hx hy
  have hTrimmed := (Abi.padded_eq_iff (of_validate hp).1 (of_validate hq).1).mp hPadded
  rwa [Abi.trimmed_eq_self hEnd, Abi.trimmed_eq_self hEnd'] at hTrimmed

/-- Under valid settings every signer set and every batch has a preimage. Ids that differ in more
than zeros at the end keep all preimages apart, whatever is signed; ids that differ in nothing else
give every signer set and every batch the same preimage. -/
theorem Params.ids_separate (p q : Params) (hp : p.validate = .ok ())
    (hq : q.validate = .ok ()) :
    (Abi.trimmed p.bridgeId ≠ Abi.trimmed q.bridgeId → ∀ x y : Subject, ∃ bytes bytes',
      x.preimage p.bridgeId = .ok bytes ∧ y.preimage q.bridgeId = .ok bytes' ∧ bytes ≠ bytes') ∧
    (Abi.trimmed p.bridgeId = Abi.trimmed q.bridgeId → ∀ x : Subject, ∃ bytes,
      x.preimage p.bridgeId = .ok bytes ∧ x.preimage q.bridgeId = .ok bytes) := by
  have hFits := (Params.of_validate hp).1
  have hFits' := (Params.of_validate hq).1
  have hPadded := Abi.padded_eq_iff hFits hFits'
  constructor
  · intro hApart x y
    obtain ⟨bytes, hx⟩ := x.exists_preimage hFits
    obtain ⟨bytes', hy⟩ := y.exists_preimage hFits'
    exact ⟨bytes, bytes', hx, hy, Subject.preimage_ne (mt hPadded.mp hApart) hx hy⟩
  · intro hSame x
    obtain ⟨bytes, hx⟩ := x.exists_preimage hFits
    exact ⟨bytes, hx, Subject.preimage_congr (hPadded.mpr hSame) hFits' hx⟩

/-- The default settings under another id. -/
def Params.named (id : String) : Params :=
  { Params.default with bridgeId := id }

/-- A set of one signer. -/
def loneSigner : Valset :=
  ⟨⟨1⟩, [⟨4294967295, ⟨.ofNat 20 1⟩⟩]⟩

/-- What is signed for the main net is not signed for the test net, but for an id with a zero more
at its end. -/
theorem Params.ids_separate_of_mainnet :
    (∃ bytes bytes', loneSigner.preimage "mainnet" = .ok bytes ∧
      (Subject.batch (Subject.loneTransfer .pending)).preimage "testnet" = .ok bytes' ∧
      bytes ≠ bytes') ∧
    ∃ bytes, loneSigner.preimage "mainnet" = .ok bytes ∧
      loneSigner.preimage "mainnet\x00" = .ok bytes :=
  ⟨(ids_separate (named "mainnet") (named "testnet") (by decide) (by decide)).1 (by decide)
      (.valset loneSigner) (.batch (Subject.loneTransfer .pending)),
    (ids_separate (named "mainnet") (named "mainnet\x00") (by decide) (by decide)).2 (by decide)
      (.valset loneSigner)⟩

/-- Two valid ids that are different and under which one signer set has the same preimage. -/
theorem Params.ids_alike :
    (Params.named "mainnet").validate = .ok () ∧ (Params.named "mainnet\x00").validate = .ok () ∧
      (Params.named "mainnet").bridgeId ≠ (Params.named "mainnet\x00").bridgeId ∧
      ∃ bytes, loneSigner.preimage (Params.named "mainnet").bridgeId = .ok bytes ∧
        loneSigner.preimage (Params.named "mainnet\x00").bridgeId = .ok bytes := by
  refine ⟨by decide, by decide, by decide, ?_⟩
  have hFits : (Text.utf8 "mainnet".toList).length ≤ 32 := by decide
  obtain ⟨bytes, hBytes⟩ := (Subject.valset loneSigner).exists_preimage hFits
  exact ⟨bytes, hBytes, Subject.preimage_congr (by decide) (by decide) hBytes⟩

end TokenBridge

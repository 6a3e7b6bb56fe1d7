import TokenBridge.Proofs.Bridge.Handling
import TokenBridge.Signature

/-!
# Recovering signers

The address behind 65 bytes is found in five steps: the bytes are cut into `r`, `s` and `v`, the
byte `v` names a parity, `r` and `s` have to be in range, the curve gives a public key, and its hash
is the address. Making a signature packs what the curve gives into the same three parts.

* `ofBytes_toBytes`, `toBytes_of_ofBytes`: a signature is its bytes;
* `parity_eq_ok`: the two bytes that name a parity;
* `recover_eq_ok`, `verify_eq_ok`: what an accepted signature says;
* `recover_pack`: the signer of a packed signature, under any recovery byte.
-/

namespace TokenBridge

open Secp256k1

namespace EthSignature

variable {hash : Digest} {bytes : List UInt8} {sig : EthSignature} {actual expected : EthAddress}
  {v : UInt8} {odd : Bool}

/-! ## Bytes -/

theorem ofBytes_toBytes (sig : EthSignature) : ofBytes sig.toBytes = .ok sig := by
  have hLast : (sig.r.toBytes ++ (sig.s.toBytes ++ [sig.v])).drop 64 = [sig.v] := by
    rw [← List.append_assoc, List.drop_left' (by simp)]
  simp [ofBytes, toBytes, hLast]

theorem toBytes_of_ofBytes (h : ofBytes bytes = .ok sig) : sig.toBytes = bytes := by
  rw [ofBytes] at h
  split at h
  · rename_i r s v hr hs hv
    cases h
    rw [toBytes, Word.toBytes_of_ofBytes? hr, Word.toBytes_of_ofBytes? hs, ← hv]
    have hDrop : bytes.drop 64 = (bytes.drop 32).drop 32 := by rw [List.drop_drop]
    rw [hDrop, List.append_assoc, List.take_append_drop, List.take_append_drop]
  · cases h

/-! ## Recovery bytes -/

theorem parity_eq_ok :
    parity v = .ok odd ↔ v = recoveryByte odd ∨ v = recoveryByte odd - 27 := by
  rw [parity]
  cases odd with
  | false => grind [recoveryByte]
  | true => grind [recoveryByte]

/-! ## Recovering and verifying -/

/-- A number that a signature may have. -/
def InRange (n : Nat) : Prop :=
  0 < n ∧ n < order

/-- **What recovers a signer.** -/
theorem recover_eq_ok :
    recover hash bytes = .ok actual ↔
      ∃ sig odd key, ofBytes bytes = .ok sig ∧ parity sig.v = .ok odd ∧
        InRange sig.r.toNat ∧ InRange sig.s.toNat ∧
        Recoverable.publicKey? ⟨sig.r.toNat, sig.s.toNat, odd⟩ (messageDigest hash) = some key ∧
        key.address = actual := by
  rw [recover, Bridge.checked_bind_eq_ok]
  constructor
  · rintro ⟨sig, hSig, h⟩
    obtain ⟨odd, hOdd, h⟩ := Bridge.checked_bind_eq_ok.mp h
    by_cases hOut : sig.r.toNat = 0 ∨ order ≤ sig.r.toNat ∨ sig.s.toNat = 0 ∨ order ≤ sig.s.toNat
    · rw [if_pos hOut] at h
      cases h
    · rw [if_neg hOut] at h
      cases hKey : Recoverable.publicKey? ⟨sig.r.toNat, sig.s.toNat, odd⟩ (messageDigest hash) with
      | none =>
        rw [hKey] at h
        cases h
      | some key =>
        rw [hKey] at h
        cases h
        exact ⟨sig, odd, key, hSig, hOdd, ⟨by omega, by omega⟩, ⟨by omega, by omega⟩, hKey, rfl⟩
  · rintro ⟨sig, odd, key, hSig, hOdd, hr, hs, hKey, rfl⟩
    have hIn : ¬(sig.r.toNat = 0 ∨ order ≤ sig.r.toNat ∨ sig.s.toNat = 0 ∨
        order ≤ sig.s.toNat) := by
      rw [InRange] at hr hs
      omega
    refine ⟨sig, hSig, ?_⟩
    rw [hOdd]
    show (if _ then _ else _) = _
    rw [if_neg hIn, hKey]
    rfl

theorem verify_eq_ok :
    verify hash bytes expected = .ok () ↔ recover hash bytes = .ok expected := by
  rw [verify, Bridge.checked_bind_eq_ok]
  constructor
  · rintro ⟨actual, hRecover, h⟩
    by_cases hOther : actual ≠ expected
    · rw [if_pos hOther] at h
      cases h
    · rw [hRecover, Decidable.not_not.mp hOther]
  · intro hRecover
    exact ⟨expected, hRecover, if_neg fun hOther => hOther rfl⟩

theorem verify_of_other (hRecover : recover hash bytes = .ok actual) (hOther : actual ≠ expected) :
    verify hash bytes expected = .error (.otherSigner expected actual) := by
  rw [verify, hRecover]
  exact if_pos hOther

/-! ## Packed signatures -/

theorem sign_of_made {key : SecretKey} {sig : Recoverable}
    (h : key.sign? (messageDigest hash) = some sig) : sign hash (some key) = .ok (pack sig) := by
  rw [sign, Option.elim_some, h, Option.elim_some]

theorem toNat_ofNat_of_inRange {n : Nat} (h : InRange n) : (Word.ofNat 32 n).toNat = n := by
  have hSize : order < Nat.pow 256 32 := by decide
  exact Word.toNat_ofNat (Nat.lt_trans h.2 hSize)

/-- **The signer of a packed signature.** The recovery byte may be replaced by any other byte. -/
theorem recover_pack {sig : Recoverable} (hr : InRange sig.r) (hs : InRange sig.s) (v : UInt8) :
    recover hash { pack sig with v }.toBytes = .ok actual ↔
      ∃ odd key, parity v = .ok odd ∧
        Recoverable.publicKey? { sig with odd } (messageDigest hash) = some key ∧
        key.address = actual := by
  have hrWord : (pack sig).r.toNat = sig.r := toNat_ofNat_of_inRange hr
  have hsWord : (pack sig).s.toNat = sig.s := toNat_ofNat_of_inRange hs
  rw [recover_eq_ok]
  constructor
  · rintro ⟨read, odd, key, hRead, hOdd, -, -, hKey, hAddress⟩
    rw [ofBytes_toBytes] at hRead
    cases hRead
    rw [hrWord, hsWord] at hKey
    exact ⟨odd, key, hOdd, hKey, hAddress⟩
  · rintro ⟨odd, key, hOdd, hKey, hAddress⟩
    refine ⟨_, odd, key, ofBytes_toBytes _, hOdd, ?_, ?_, ?_, hAddress⟩
    · rw [hrWord]
      exact hr
    · rw [hsWord]
      exact hs
    · rw [hrWord, hsWord]
      exact hKey

end EthSignature

end TokenBridge

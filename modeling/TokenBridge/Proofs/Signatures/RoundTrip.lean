import TokenBridge.Proofs.Curve.Signing
import TokenBridge.Proofs.Signatures.Recovery

/-!
# Signatures accepted by their verifier

Making a signature and checking it are separate computations that agree on the prefix of the
message, on the place of `r`, `s` and `v` in the 65 bytes, and on what the recovery byte says. So
for every key and every hash the address behind a made signature is the signer's, whichever of its
two forms the recovery byte has, and no other address is accepted. Under a byte that names the other
parity the curve tells another key, which is accepted only if its address is the same.

* `recover_made`: the signer of a made signature;
* `exists_other_of_recover`: what a signature under another recovery byte says;
* `sign_accepted`: made signatures are accepted.
-/

namespace TokenBridge

open Secp256k1

namespace EthSignature

variable {hash : Digest} {key : SecretKey} {sig : Recoverable} {holder : PublicKey} {k : Nat}
  {v : UInt8}

theorem inRange_of_signed (h : Signed key (messageDigest hash) sig k) :
    InRange sig.r ∧ InRange sig.s :=
  ⟨h.r, h.s_pos, Nat.lt_of_le_of_lt h.low (by decide)⟩

/-- The recovery byte that a signature is made with, and the older form of it, lead to the
signer. -/
theorem recover_made (h : Signed key (messageDigest hash) sig k)
    (hKey : key.publicKey? = some holder) (hv : v = (pack sig).v ∨ v = (pack sig).v - 27) :
    recover hash { pack sig with v }.toBytes = .ok holder.address := by
  obtain ⟨hr, hs⟩ := inRange_of_signed h
  exact (recover_pack hr hs v).mpr
    ⟨sig.odd, holder, parity_eq_ok.mpr hv, h.publicKey?_eq.trans hKey, rfl⟩

/-- Any other byte leads to the signer's address only if another key has that address too. -/
theorem exists_other_of_recover (h : Signed key (messageDigest hash) sig k)
    (hKey : key.publicKey? = some holder) (hv : v ≠ (pack sig).v) (hv' : v ≠ (pack sig).v - 27)
    (hRecover : recover hash { pack sig with v }.toBytes = .ok holder.address) :
    ∃ other, other ≠ holder ∧ other.address = holder.address := by
  obtain ⟨hr, hs⟩ := inRange_of_signed h
  obtain ⟨odd, other, hOdd, hOther, hAddress⟩ := (recover_pack hr hs v).mp hRecover
  have hParity : odd ≠ sig.odd := by
    rintro rfl
    exact (parity_eq_ok.mp hOdd).elim hv hv'
  rw [Bool.eq_not.mpr hParity] at hOther
  refine ⟨other, ?_, hAddress⟩
  rintro rfl
  exact h.publicKey?_ne (hOther.trans hKey.symm)

/-- **Signatures are accepted.** Where the curve makes a signature, from a one-time point whose
first coordinate it tells, the 65 bytes lead to the signer, and to no other address, under the
recovery byte that they are made with and under its older form. Under any other byte they do not
lead to the signer's address, unless another public key has the same address. -/
theorem sign_accepted (key : SecretKey) (hash : Digest) (sig : Recoverable)
    (hMade : key.sign? (messageDigest hash) = some sig)
    (hUnreduced : key.Unreduced (messageDigest hash)) :
    ∃ holder made, key.publicKey? = some holder ∧ sign hash (some key) = .ok made ∧
      (made.v = 27 ∨ made.v = 28) ∧
      (∀ v, v = made.v ∨ v = made.v - 27 →
        recover hash { made with v }.toBytes = .ok holder.address ∧
        ∀ expected, verify hash { made with v }.toBytes expected =
          if expected = holder.address then .ok ()
          else .error (.otherSigner expected holder.address)) ∧
      ∀ v, v ≠ made.v → v ≠ made.v - 27 →
        verify hash { made with v }.toBytes holder.address = .ok () →
        ∃ other, other ≠ holder ∧ other.address = holder.address := by
  obtain ⟨k, h⟩ := exists_signed_of_sign? hMade hUnreduced
  obtain ⟨holder, hKey⟩ := exists_publicKey? key
  refine ⟨holder, pack sig, hKey, sign_of_made hMade, ?_, fun v hv => ?_,
    fun v hv hv' hVerify => ?_⟩
  · show recoveryByte sig.odd = 27 ∨ recoveryByte sig.odd = 28
    cases sig.odd <;> decide
  · have hRecover := recover_made h hKey hv
    refine ⟨hRecover, fun expected => ?_⟩
    by_cases hSame : expected = holder.address
    · rw [if_pos hSame, verify_eq_ok.mpr (hSame ▸ hRecover)]
    · rw [if_neg hSame, verify_of_other hRecover fun hEq => hSame hEq.symm]
  · exact exists_other_of_recover h hKey hv hv' (verify_eq_ok.mp hVerify)

def keyOne : SecretKey :=
  ⟨1, by decide, by decide⟩

theorem sign_accepted_of_keyOne :
    ∃ holder made, keyOne.publicKey? = some holder ∧
      sign (.ofNat 32 7) (some keyOne) = .ok made ∧
      verify (.ofNat 32 7) made.toBytes holder.address = .ok () := by
  -- the one-time number is hashed once, and used for both hypotheses
  have hDraw : Drbg.draw? 64 (.start keyOne.toNat (messageDigest (.ofNat 32 7)).toNat) =
      some 87702214553776296236365044640480008468485889769944138171921527888242935636382 := by
    decide +kernel
  have hMade : keyOne.sign? (messageDigest (.ofNat 32 7)) = some
      ⟨67921523870365463449290924641229049416882989642124255239802247836063901553651,
        27620872397789735141939912315969885300743449277393832027483062779418568613249, false⟩ := by
    rw [SecretKey.sign?, hDraw]
    decide +kernel
  have hUnreduced : keyOne.Unreduced (messageDigest (.ofNat 32 7)) := by
    rw [SecretKey.Unreduced, hDraw]
    decide +kernel
  obtain ⟨holder, made, hKey, hSign, -, hForms, -⟩ := sign_accepted keyOne _ _ hMade hUnreduced
  refine ⟨holder, made, hKey, hSign, ?_⟩
  rw [(hForms made.v (Or.inl rfl)).2, if_pos rfl]

end EthSignature

end TokenBridge

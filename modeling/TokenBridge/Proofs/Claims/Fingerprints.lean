import TokenBridge.Proofs.Claims.Agreement
import TokenBridge.Proofs.Text.Addresses

/-!
# What a fingerprint covers

A fingerprint is the hash of a payload. Payloads are equal only for claims of one kind that agree in
all fields but the nonce. All fields but the symbol of a token have a fixed width, so their places
are known from the two ends of a payload, and the symbol is what is left between them, whatever its
bytes look like and however long it is.

* `SameDetails`: claims that agree in all but the nonce;
* `payload_eq_iff`: they are told by their payloads;
* `payload_covers`: what it takes for two claims to go into one tally.
-/

namespace TokenBridge

/-! ## Fields -/

theorem Nonce.toBytes_injective {m n : Nonce} (h : m.toBytes = n.toBytes) : m = n := by
  have hRange (k : Nonce) : k.toNat < Nat.pow 256 8 := k.value.toNat_lt
  have hNumber : ofBigEndian m.toBytes = ofBigEndian n.toBytes := congrArg ofBigEndian h
  rw [toBytes, toBytes, ofBigEndian_bigEndian (hRange m), ofBigEndian_bigEndian (hRange n)]
    at hNumber
  exact Nonce.ext_toNat hNumber

theorem Address.toBytes_injective {party : Party} {a b : Address party}
    (h : a.toBytes = b.toBytes) : a = b :=
  congrArg Address.mk (Word.toBytes_injective h)

theorem Amount.bigEndian_injective {a b : Amount}
    (h : bigEndian 32 a.toNat = bigEndian 32 b.toNat) : a = b :=
  Amount.ext (congrArg Word.toNat (Word.toBytes_injective (a := a.word) (b := b.word) h))

theorem ClaimKind.tag_injective {k k' : ClaimKind} (h : k.tag = k'.tag) : k = k' :=
  Ranked.rank_injective (congrArg (fun tag : UInt8 => [tag.toNat]) h)

namespace Claim

variable {a b : Claim} {nonce nonce' : Nonce}

/-! ## Payloads -/

/-- Two claims are of one kind and agree in all fields but the nonce. -/
inductive SameDetails : Claim → Claim → Prop
  | deposit (nonce nonce' : Nonce) (token : Token) (sender : EthAddress)
      (receiver : AccountAddress) :
      SameDetails (.deposit nonce token sender receiver) (.deposit nonce' token sender receiver)
  | batchExecuted (nonce nonce' batchNonce : Nonce) (contract : EthAddress) :
      SameDetails (.batchExecuted nonce batchNonce contract)
        (.batchExecuted nonce' batchNonce contract)
  | valsetExecuted (nonce nonce' valsetNonce : Nonce) :
      SameDetails (.valsetExecuted nonce valsetNonce) (.valsetExecuted nonce' valsetNonce)

theorem SameDetails.refl (a : Claim) : a.SameDetails a := by
  cases a with
  | deposit => exact .deposit ..
  | batchExecuted => exact .batchExecuted ..
  | valsetExecuted => exact .valsetExecuted ..

theorem kind_eq_of_payload (h : a.payload = b.payload) : a.kind = b.kind :=
  ClaimKind.tag_injective (List.cons.inj h).1

/-- The fields of a deposit are told from the back and from the front. The length of the symbol,
which is cut to four bytes, is not needed for it. -/
theorem deposit_of_payload {token token' : Token} {sender sender' : EthAddress}
    {receiver receiver' : AccountAddress}
    (h : (deposit nonce token sender receiver).payload =
      (deposit nonce' token' sender' receiver').payload) :
    token = token' ∧ sender = sender' ∧ receiver = receiver' := by
  obtain ⟨amount, symbol, contract⟩ := token
  obtain ⟨amount', symbol', contract'⟩ := token'
  obtain ⟨hRest, hReceiver⟩ := List.append_inj' (List.cons.inj h).2
    (receiver.length_toBytes.trans receiver'.length_toBytes.symm)
  obtain ⟨hRest, hSender⟩ := List.append_inj' hRest
    (sender.length_toBytes.trans sender'.length_toBytes.symm)
  obtain ⟨hFront, hSymbol⟩ := List.append_inj hRest (by
    simp only [List.length_append, length_bigEndian, Address.length_toBytes])
  obtain ⟨hFront, -⟩ := List.append_inj' hFront
    ((length_bigEndian _ _).trans (length_bigEndian _ _).symm)
  obtain ⟨hAmount, hContract⟩ := List.append_inj' hFront
    (contract.length_toBytes.trans contract'.length_toBytes.symm)
  rw [Token.mk.injEq]
  exact ⟨⟨Amount.bigEndian_injective hAmount, String.toList_inj.mp (Text.utf8_injective hSymbol),
      Address.toBytes_injective hContract⟩,
    Address.toBytes_injective hSender, Address.toBytes_injective hReceiver⟩

theorem batchExecuted_of_payload {m n : Nonce} {contract contract' : EthAddress}
    (h : (batchExecuted nonce m contract).payload = (batchExecuted nonce' n contract').payload) :
    m = n ∧ contract = contract' := by
  obtain ⟨hNonce, hContract⟩ := List.append_inj' (List.cons.inj h).2
    (contract.length_toBytes.trans contract'.length_toBytes.symm)
  exact ⟨Nonce.toBytes_injective hNonce, Address.toBytes_injective hContract⟩

/-- The payload tells the kind and all fields but the nonce. -/
theorem payload_eq_iff : a.payload = b.payload ↔ a.SameDetails b := by
  constructor
  · intro h
    have hKind := kind_eq_of_payload h
    cases a with
    | deposit =>
      cases b with
      | deposit =>
        obtain ⟨rfl, rfl, rfl⟩ := deposit_of_payload h
        exact .deposit ..
      | _ => cases hKind
    | batchExecuted =>
      cases b with
      | batchExecuted =>
        obtain ⟨rfl, rfl⟩ := batchExecuted_of_payload h
        exact .batchExecuted ..
      | _ => cases hKind
    | valsetExecuted =>
      cases b with
      | valsetExecuted =>
        obtain rfl := Nonce.toBytes_injective (List.cons.inj h).2
        exact .valsetExecuted ..
      | _ => cases hKind
  · intro h
    cases h with
    | _ => rfl

/-! ## Tallies -/

/-- A claim is its nonce and what its payload tells. -/
theorem eq_iff : a = b ↔ a.nonce = b.nonce ∧ a.payload = b.payload := by
  rw [payload_eq_iff]
  constructor
  · rintro rfl
    exact ⟨rfl, .refl a⟩
  · rintro ⟨hNonce, hDetails⟩
    cases hDetails with
    | _ =>
      cases hNonce
      rfl

/-- **What a fingerprint covers.** The payloads of two claims are equal just when the claims are of
one kind and agree in all fields but the nonce. So two claims go into one tally just when they are
equal, or else have one kind, one nonce and different payloads with the same hash. -/
theorem payload_covers (a b : Claim) :
    (a.payload = b.payload ↔ a.SameDetails b) ∧
    ((Attestation.start a).key = (Attestation.start b).key ↔
      a = b ∨ a.kind = b.kind ∧ a.nonce = b.nonce ∧ a.payload ≠ b.payload ∧
        keccak256 a.payload = keccak256 b.payload) := by
  refine ⟨payload_eq_iff, ?_⟩
  constructor
  · intro hKey
    obtain ⟨hKind, hNonce, hHash⟩ := AttestationKey.mk.inj hKey
    by_cases hPayload : a.payload = b.payload
    · exact Or.inl (eq_iff.mpr ⟨hNonce, hPayload⟩)
    · exact Or.inr ⟨hKind, hNonce, hPayload, hHash⟩
  · rintro (rfl | ⟨hKind, hNonce, -, hHash⟩)
    · rfl
    · exact (AttestationKey.mk.injEq ..).mpr ⟨hKind, hNonce, hHash⟩

end Claim

end TokenBridge

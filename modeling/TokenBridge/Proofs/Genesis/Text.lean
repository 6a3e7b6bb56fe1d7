import TokenBridge.Genesis
import TokenBridge.Proofs.Json.Forms
import TokenBridge.Proofs.Signatures.Recovery
import TokenBridge.Proofs.Text.Addresses

/-!
# Genesis documents read back

Every part of a genesis document has a lawful JSON form, so the text of a document is read as that
document, valid or not.

* `Claim.sound_toJson`, `Claim.ofJsonWithin?_toJson`: a claim can be held before its kind is known,
  and is read once it is;
* `Genesis.parse_print`: what is printed is parsed again.
-/

namespace TokenBridge

open LawfulJsonForm (of_record plain_toJson ofJson?_toJson)

/-! ## Leaves -/

instance : LawfulJsonForm Nonce where
  plain_toJson n := .nat n.value.toNat_lt
  ofJson?_toJson n := by
    have hRead : (Json.nat n.toNat).natBelow? UInt64.size = some n.toNat :=
      Json.natBelow?_nat n.value.toNat_lt
    show ((Json.nat n.toNat).natBelow? UInt64.size).map (fun value => (⟨.ofNat value⟩ : Nonce)) = _
    rw [hRead]
    simp [Nonce.toNat]

instance : LawfulJsonForm (Option Nonce) :=
  .option fun _ h => by cases h

instance : LawfulJsonForm Amount where
  plain_toJson _ := .text _
  ofJson?_toJson a := by
    show Amount.ofHex? (String.ofList a.hexChars).toList = some a
    rw [String.toList_ofList, Amount.ofHex?_hexChars]

instance : LawfulJsonForm Digest where
  plain_toJson hash := plain_toJson hash.toBytes
  ofJson?_toJson hash := by
    show (ofJson? (toJson hash.toBytes)).bind (fun bytes => Word.ofBytes? bytes) = some hash
    rw [ofJson?_toJson, Option.bind_some, Word.ofBytes?_toBytes]

instance : LawfulJsonForm EthSignature :=
  of_record (fun _ => rfl) (fun _ => rfl) (fun sig => by simp) fun sig => by
    have hBytes : EthSignature.bytesOf? (toJson sig.toBytes) = some sig.toBytes :=
      ofJson?_toJson sig.toBytes
    simp [Json.valuesOf, hBytes, EthSignature.ofBytes_toBytes, Except.toOption]

instance : LawfulJsonForm ClaimKind where
  plain_toJson _ := .text _
  ofJson?_toJson kind := by cases kind <;> rfl

instance : LawfulJsonForm BatchStatus where
  plain_toJson _ := .text _
  ofJson?_toJson status := by cases status <;> rfl

instance : LawfulJsonForm ConfirmStream where
  plain_toJson
    | .valset => .text _
    | .batch contract => .record (by simp)
  ofJson?_toJson
    | .valset => rfl
    | .batch contract => by
      show (ofJson? (toJson contract)).map ConfirmStream.batch = some (.batch contract)
      rw [ofJson?_toJson]
      rfl

/-! ## Structures -/

instance : LawfulJsonForm Token :=
  of_record (fun _ => rfl) (fun _ => rfl) (fun _ => by simp) fun _ => by
    simp [Json.required?, Json.valuesOf]

instance : LawfulJsonForm Transfer :=
  of_record (fun _ => rfl) (fun _ => rfl) (fun _ => by simp) fun _ => by
    simp [Json.required?, Json.valuesOf]

instance : LawfulJsonForm Batch :=
  of_record (fun _ => rfl) (fun _ => rfl) (fun _ => by simp) fun _ => by
    simp [Json.required?, Json.valuesOf]

instance : LawfulJsonForm Vote :=
  of_record (fun _ => rfl) (fun _ => rfl) (fun _ => by simp) fun _ => by
    simp [Json.required?, Json.valuesOf]

instance : LawfulJsonForm Member :=
  of_record (fun _ => rfl) (fun _ => rfl) (fun _ => by simp) fun _ => by
    simp [Json.required?, Json.valuesOf]

instance : LawfulJsonForm Valset :=
  of_record (fun _ => rfl) (fun _ => rfl) (fun _ => by simp) fun _ => by
    simp [Json.required?, Json.valuesOf]

instance : LawfulJsonForm ValsetConfirm :=
  of_record (fun _ => rfl) (fun _ => rfl) (fun _ => by simp) fun _ => by
    simp [Json.required?, Json.valuesOf]

instance : LawfulJsonForm BatchConfirm :=
  of_record (fun _ => rfl) (fun _ => rfl) (fun _ => by simp) fun _ => by
    simp [Json.required?, Json.valuesOf]

instance : LawfulJsonForm Threshold :=
  of_record (fun _ => rfl) (fun _ => rfl) (fun _ => by simp) fun _ => by
    simp [Json.required?, Json.valuesOf]

instance : LawfulJsonForm Params :=
  of_record (fun _ => rfl) (fun _ => rfl) (fun _ => by simp) fun _ => by
    simp [Json.optional?, Json.valuesOf]

instance : LawfulJsonForm KeyRegistration :=
  of_record (fun _ => rfl) (fun _ => rfl) (fun _ => by simp) fun _ => by
    simp [Json.required?, Json.valuesOf]

instance : LawfulJsonForm ClaimCursor :=
  of_record (fun _ => rfl) (fun _ => rfl) (fun _ => by simp) fun _ => by
    simp [Json.required?, Json.valuesOf]

instance : LawfulJsonForm ConfirmCursor :=
  of_record (fun _ => rfl) (fun _ => rfl) (fun _ => by simp) fun _ => by
    simp [Json.required?, Json.valuesOf]

/-! ## Claims -/

theorem Nonce.sound_toJson (room : Nat) (n : Nonce) : (toJson n).sound room = true :=
  Json.sound_nat room n.value.toNat_lt

theorem Address.sound_toJson {party : Party} (room : Nat) (a : Address party) :
    (toJson a).sound room = true :=
  Json.sound_text room a.text

theorem Token.sound_toJson (room : Nat) (t : Token) : (toJson t).sound (room + 1) = true := by
  have hForm : toJson t =
      .record [("amount", toJson t.amount), ("symbol", toJson t.symbol),
        ("contract", toJson t.contract)] := rfl
  have hAmount : (toJson t.amount).sound room = true := Json.sound_text room _
  have hSymbol : (toJson t.symbol).sound room = true := Json.sound_text room _
  rw [hForm, Json.sound_record]
  simp [hAmount, hSymbol, Address.sound_toJson]

namespace Claim

theorem toJson_deposit (nonce : Nonce) (token : Token) (sender : EthAddress)
    (receiver : AccountAddress) :
    toJson (deposit nonce token sender receiver) =
      .record [("type", .text "deposit"), ("nonce", toJson nonce), ("token", toJson token),
        ("eth_sender", toJson sender), ("cosmos_receiver", toJson receiver)] :=
  rfl

theorem toJson_batchExecuted (nonce batchNonce : Nonce) (contract : EthAddress) :
    toJson (batchExecuted nonce batchNonce contract) =
      .record [("type", .text "withdrawal_batch_executed"), ("nonce", toJson nonce),
        ("batch_nonce", toJson batchNonce), ("token_contract", toJson contract)] :=
  rfl

theorem toJson_valsetExecuted (nonce valsetNonce : Nonce) :
    toJson (valsetExecuted nonce valsetNonce) =
      .record [("type", .text "valset_update_executed"), ("nonce", toJson nonce),
        ("valset_nonce", toJson valsetNonce)] :=
  rfl

/-- A claim can be held before its kind is known: a token is the deepest thing in it. -/
theorem sound_toJson (room : Nat) (claim : Claim) : (toJson claim).sound (room + 2) = true := by
  cases claim with
  | deposit =>
    simp [toJson_deposit, Json.sound_record, Json.sound_text, Nonce.sound_toJson,
      Address.sound_toJson, Token.sound_toJson]
  | batchExecuted =>
    simp [toJson_batchExecuted, Json.sound_record, Json.sound_text, Nonce.sound_toJson,
      Address.sound_toJson]
  | valsetExecuted =>
    simp [toJson_valsetExecuted, Json.sound_record, Json.sound_text, Nonce.sound_toJson]

/-- A claim is read back with any room for its levels. -/
theorem ofJsonWithin?_toJson (room : Nat) (claim : Claim) :
    ofJsonWithin? (room + 2) (toJson claim) = some claim := by
  rw [ofJsonWithin?, sound_toJson]
  cases claim with
  | deposit =>
    rw [toJson_deposit, Json.tagged?_record (by simp [Json.Plain.text]) rfl]
    simp [ClaimKind.all, ClaimKind.label, Json.record?_of_plain, Json.Plain.text, Json.required?,
      Json.valuesOf]
  | batchExecuted =>
    rw [toJson_batchExecuted, Json.tagged?_record (by simp [Json.Plain.text]) rfl]
    simp [ClaimKind.all, ClaimKind.label, Json.record?_of_plain, Json.Plain.text, Json.required?,
      Json.valuesOf]
  | valsetExecuted =>
    rw [toJson_valsetExecuted, Json.tagged?_record (by simp [Json.Plain.text]) rfl]
    simp [ClaimKind.all, ClaimKind.label, Json.record?_of_plain, Json.Plain.text, Json.required?,
      Json.valuesOf]

end Claim

instance : LawfulJsonForm Claim where
  plain_toJson
    | .deposit .. => .record (by simp [Json.Plain.text])
    | .batchExecuted .. => .record (by simp [Json.Plain.text])
    | .valsetExecuted .. => .record (by simp [Json.Plain.text])
  -- the form leaves 124 levels, of which a claim takes two
  ofJson?_toJson claim := claim.ofJsonWithin?_toJson 122

instance : LawfulJsonForm Attestation :=
  of_record (fun _ => rfl) (fun _ => rfl) (fun _ => by simp) fun _ => by
    simp [Json.required?, Json.valuesOf]

instance : LawfulJsonForm Genesis :=
  of_record (fun _ => rfl) (fun _ => rfl) (fun _ => by simp) fun _ => by
    simp [Json.optional?, Json.valuesOf]

/-- **What is printed is parsed again.** -/
theorem Genesis.parse_print (g : Genesis) : parse g.print = .ok g := by
  rw [parse, print, LawfulJsonForm.parse?_pretty]

end TokenBridge

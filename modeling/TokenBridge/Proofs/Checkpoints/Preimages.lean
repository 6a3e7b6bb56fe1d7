import TokenBridge.Proofs.Checkpoints.Encoding
import TokenBridge.Proofs.Claims.Majority

/-!
# What signers bind themselves to

Signers sign the hash of a preimage. Preimages are equal only for one id, filled up to a word, and
for subjects that agree in all the contract reads of them, however many members or transfers they
list: the length of the preimage tells their number, the word of the kind tells signer sets from
batches, and the rest is told apart place by place.

* `Valset.preimage_eq_ok`, `Batch.preimage_eq_ok`: a preimage as the encoding of its arguments;
* `Valset.arguments_injective`, `Batch.arguments_injective`: what the arguments tell;
* `Valset.eq_of_encode`, `Batch.eq_of_encode`: equal encodings have equal arguments;
* `Subject.preimage_binds`: the statement for all ids and all subjects;
* `Bridge.exists_checkpointOfValset`, `Bridge.exists_checkpointOfBatch`: under valid settings
  checkpoints can be computed.
-/

namespace TokenBridge

open Abi (Arg encode padded)

/-- An array that lists one word an element. -/
theorem Abi.array_map_word {α : Type} (f : α → Word 32) (l : List α) :
    Arg.array (l.map fun a => .word (f a)) = .words (l.map f) := by
  rw [Arg.words, List.map_map]
  rfl

theorem Abi.words_injective {vs ws : List (Word 32)} (h : Arg.words vs = Arg.words ws) :
    vs = ws := by
  have hItems : vs.map Arg.word = ws.map Arg.word := Arg.array.inj h
  exact List.map_injective_iff.mpr (fun _ _ h => Arg.word.inj h) hItems

/-- Arguments that hold two texts are encoded exactly if both fit in a word. -/
theorem Abi.encode_tagged_eq_ok (name kindName : String) (arguments : Digest → Digest → List Arg)
    {p : List UInt8} :
    (do let id ← tag name; let kind ← tag kindName; return encode (arguments id kind)) = .ok p ↔
      ∃ id kind, tag name = .ok id ∧ tag kindName = .ok kind ∧ encode (arguments id kind) = p := by
  simp only [Bridge.checked_bind_eq_ok]
  constructor
  · rintro ⟨id, hId, kind, hKind, h⟩
    exact ⟨id, kind, hId, hKind, Except.ok.inj h⟩
  · rintro ⟨id, kind, hId, hKind, rfl⟩
    exact ⟨id, hId, kind, hKind, rfl⟩

theorem map_pair_eq {α β γ : Type} {f : α → β} {g : α → γ} {l l' : List α}
    (hFirst : l.map f = l'.map f) (hSecond : l.map g = l'.map g) :
    (l.map fun a => (f a, g a)) = l'.map fun a => (f a, g a) := by
  rw [← List.zip_map', ← List.zip_map', hFirst, hSecond]

/-! ## Signer sets -/

namespace Valset

variable {v w : Valset}

def arguments (v : Valset) (id kind : Digest) : List Arg :=
  [.word id, .word kind, .nonce v.nonce, .array (v.members.map fun m => .address m.address),
    .array (v.members.map fun m => .uint64 m.power)]

/-- The arguments are words and arrays of words. -/
theorem arguments_eq (v : Valset) (id kind : Digest) :
    v.arguments id kind =
      [.word id, .word kind, .word (.ofNat 32 v.nonce.toNat),
        .words (v.members.map fun m => .ofNat 32 m.address.word.toNat),
        .words (v.members.map fun m => .ofNat 32 m.power.toNat)] := by
  rw [← Abi.array_map_word, ← Abi.array_map_word]
  rfl

theorem preimage_eq_ok {bridgeId : String} {p : List UInt8} :
    v.preimage bridgeId = .ok p ↔ ∃ id kind, Abi.tag bridgeId = .ok id ∧
      Abi.tag "checkpoint" = .ok kind ∧ encode (v.arguments id kind) = p :=
  Abi.encode_tagged_eq_ok bridgeId "checkpoint" v.arguments

/-- Seven words, and two for each member. -/
theorem length_encode_arguments (v : Valset) (id kind : Digest) :
    (encode (v.arguments id kind)).length = 32 * (7 + 2 * v.members.length) := by
  rw [Abi.length_encode, arguments_eq]
  simp only [List.map_cons, List.map_nil, List.sum_cons, List.sum_nil, Abi.Arg.length_tail_word,
    Abi.Arg.length_tail_words, List.length_map, List.length_cons, List.length_nil]
  omega

theorem arguments_alike (hCount : v.members.length = w.members.length)
    (id kind id' kind' : Digest) :
    List.Forall₂ Arg.Alike (v.arguments id kind) (w.arguments id' kind') := by
  have hArray (f : Member → Word 32) :
      (Arg.words (v.members.map f)).Alike (.words (w.members.map f)) :=
    .words (by rw [List.length_map, List.length_map, hCount])
  rw [arguments_eq, arguments_eq]
  exact .cons (.word ..) (.cons (.word ..) (.cons (.word ..)
    (.cons (hArray _) (.cons (hArray _) .nil))))

/-- The arguments tell id, nonce and members. -/
theorem arguments_injective {id kind id' kind' : Digest}
    (h : v.arguments id kind = w.arguments id' kind') :
    id = id' ∧ v.nonce = w.nonce ∧ v.members = w.members := by
  rw [arguments_eq, arguments_eq] at h
  simp only [List.cons.injEq, Arg.word.injEq, and_true] at h
  obtain ⟨hId, -, hNonce, hAddresses, hPowers⟩ := h
  have hNonce : v.nonce.value = w.nonce.value := Abi.uint64_word_injective hNonce
  have hMembers := map_pair_eq (Abi.words_injective hAddresses) (Abi.words_injective hPowers)
  refine ⟨hId, congrArg Nonce.mk hNonce, List.map_injective_iff.mpr ?_ hMembers⟩
  rintro ⟨power, address⟩ ⟨power', address'⟩ hPair
  obtain ⟨hAddress, hPower⟩ := Prod.mk.inj hPair
  rw [Member.mk.injEq]
  exact ⟨Abi.uint64_word_injective hPower, Abi.address_word_injective hAddress⟩

/-- Equal encodings of signer sets have equal arguments: the length tells the number of members. -/
theorem eq_of_encode {id kind id' kind' : Digest}
    (h : encode (v.arguments id kind) = encode (w.arguments id' kind')) :
    v.arguments id kind = w.arguments id' kind' := by
  have hLength := congrArg List.length h
  rw [length_encode_arguments, length_encode_arguments] at hLength
  have hCount : v.members.length = w.members.length := by omega
  exact Abi.encode_injective (arguments_alike hCount id kind id' kind') h

end Valset

/-! ## Batches -/

/-- What the contract reads of a transfer: the destination, the amount and the fee. -/
def Transfer.payout (tx : Transfer) : EthAddress × Amount × Amount :=
  (tx.dest, tx.amount.amount, tx.fee.amount)

theorem payout_words_injective :
    Function.Injective fun payout : EthAddress × Amount × Amount =>
      ((.ofNat 32 payout.1.word.toNat, payout.2.1.word, payout.2.2.word) :
        Word 32 × Word 32 × Word 32) := by
  rintro ⟨dest, amount, fee⟩ ⟨dest', amount', fee'⟩ h
  obtain ⟨hDest, hAmount, hFee⟩ : _ ∧ _ ∧ _ := by simpa only [Prod.mk.injEq] using h
  rw [Abi.address_word_injective hDest, Abi.amount_word_injective hAmount,
    Abi.amount_word_injective hFee]

namespace Batch

variable {a b : Batch}

def arguments (b : Batch) (id kind : Digest) : List Arg :=
  [.word id, .word kind, .word b.valsetCheckpoint,
    .array (b.elements.map fun tx => .amount tx.amount.amount),
    .array (b.elements.map fun tx => .address tx.dest),
    .array (b.elements.map fun tx => .amount tx.fee.amount),
    .nonce b.nonce, .address b.contract]

/-- The arguments are words and arrays of words. -/
theorem arguments_eq (b : Batch) (id kind : Digest) :
    b.arguments id kind =
      [.word id, .word kind, .word b.valsetCheckpoint,
        .words (b.elements.map fun tx => tx.amount.amount.word),
        .words (b.elements.map fun tx => .ofNat 32 tx.dest.word.toNat),
        .words (b.elements.map fun tx => tx.fee.amount.word),
        .word (.ofNat 32 b.nonce.toNat), .word (.ofNat 32 b.contract.word.toNat)] := by
  rw [← Abi.array_map_word, ← Abi.array_map_word, ← Abi.array_map_word]
  rfl

theorem preimage_eq_ok {bridgeId : String} {p : List UInt8} :
    b.preimage bridgeId = .ok p ↔ ∃ id kind, Abi.tag bridgeId = .ok id ∧
      Abi.tag "transactionBatch" = .ok kind ∧ encode (b.arguments id kind) = p :=
  Abi.encode_tagged_eq_ok bridgeId "transactionBatch" b.arguments

/-- Eleven words, and three for each transfer. -/
theorem length_encode_arguments (b : Batch) (id kind : Digest) :
    (encode (b.arguments id kind)).length = 32 * (11 + 3 * b.elements.length) := by
  rw [Abi.length_encode, arguments_eq]
  simp only [List.map_cons, List.map_nil, List.sum_cons, List.sum_nil, Abi.Arg.length_tail_word,
    Abi.Arg.length_tail_words, List.length_map, List.length_cons, List.length_nil]
  omega

theorem arguments_alike (hCount : a.elements.length = b.elements.length)
    (id kind id' kind' : Digest) :
    List.Forall₂ Arg.Alike (a.arguments id kind) (b.arguments id' kind') := by
  have hArray (f : Transfer → Word 32) :
      (Arg.words (a.elements.map f)).Alike (.words (b.elements.map f)) :=
    .words (by rw [List.length_map, List.length_map, hCount])
  rw [arguments_eq, arguments_eq]
  exact .cons (.word ..) (.cons (.word ..) (.cons (.word ..) (.cons (hArray _) (.cons (hArray _)
    (.cons (hArray _) (.cons (.word ..) (.cons (.word ..) .nil)))))))

/-- The arguments tell id, signer set, payouts, nonce and contract. -/
theorem arguments_injective {id kind id' kind' : Digest}
    (h : a.arguments id kind = b.arguments id' kind') :
    id = id' ∧ a.valsetCheckpoint = b.valsetCheckpoint ∧
      a.elements.map Transfer.payout = b.elements.map Transfer.payout ∧
      a.nonce = b.nonce ∧ a.contract = b.contract := by
  rw [arguments_eq, arguments_eq] at h
  simp only [List.cons.injEq, Arg.word.injEq, and_true] at h
  obtain ⟨hId, -, hValset, hAmounts, hDests, hFees, hNonce, hContract⟩ := h
  have hNonce : a.nonce.value = b.nonce.value := Abi.uint64_word_injective hNonce
  have hContract : a.contract = b.contract := Abi.address_word_injective hContract
  have hColumns := map_pair_eq (Abi.words_injective hDests)
    (map_pair_eq (Abi.words_injective hAmounts) (Abi.words_injective hFees))
  have hPayouts : a.elements.map Transfer.payout = b.elements.map Transfer.payout := by
    refine List.map_injective_iff.mpr payout_words_injective ?_
    rw [List.map_map, List.map_map]
    exact hColumns
  exact ⟨hId, hValset, hPayouts, congrArg Nonce.mk hNonce, hContract⟩

/-- Equal encodings of batches have equal arguments: their length tells the number of transfers. -/
theorem eq_of_encode {id kind id' kind' : Digest}
    (h : encode (a.arguments id kind) = encode (b.arguments id' kind')) :
    a.arguments id kind = b.arguments id' kind' := by
  have hLength := congrArg List.length h
  rw [length_encode_arguments, length_encode_arguments] at hLength
  have hCount : a.elements.length = b.elements.length := by omega
  exact Abi.encode_injective (arguments_alike hCount id kind id' kind') h

theorem arguments_congr {id kind : Digest} (hValset : a.valsetCheckpoint = b.valsetCheckpoint)
    (hPayouts : a.elements.map Transfer.payout = b.elements.map Transfer.payout)
    (hNonce : a.nonce = b.nonce) (hContract : a.contract = b.contract) :
    a.arguments id kind = b.arguments id kind := by
  have hColumn (f : EthAddress × Amount × Amount → Arg) :
      (a.elements.map fun tx => f tx.payout) = b.elements.map fun tx => f tx.payout := by
    have h := congrArg (List.map f) hPayouts
    rwa [List.map_map, List.map_map] at h
  have hAmounts : (a.elements.map fun tx => Arg.amount tx.amount.amount) =
      b.elements.map fun tx => Arg.amount tx.amount.amount := hColumn fun p => .amount p.2.1
  have hDests : (a.elements.map fun tx => Arg.address tx.dest) =
      b.elements.map fun tx => Arg.address tx.dest := hColumn fun p => .address p.1
  have hFees : (a.elements.map fun tx => Arg.amount tx.fee.amount) =
      b.elements.map fun tx => Arg.amount tx.fee.amount := hColumn fun p => .amount p.2.2
  rw [arguments, arguments, hValset, hNonce, hContract, hAmounts, hDests, hFees]

end Batch

/-! ## Subjects -/

/-- What signers are asked to sign. -/
inductive Subject where
  | valset (v : Valset)
  | batch (b : Batch)

namespace Subject

def preimage : Subject → String → Except TagTooLong (List UInt8)
  | .valset v => v.preimage
  | .batch b => b.preimage

/-- Two subjects are of one kind and agree in all the contract reads of them. -/
def Agrees : Subject → Subject → Prop
  | .valset v, .valset w => v.nonce = w.nonce ∧ v.members = w.members
  | .batch a, .batch b =>
    a.valsetCheckpoint = b.valsetCheckpoint ∧
      a.elements.map Transfer.payout = b.elements.map Transfer.payout ∧
      a.nonce = b.nonce ∧ a.contract = b.contract
  | _, _ => False

def kindName : Subject → String
  | .valset _ => "checkpoint"
  | .batch _ => "transactionBatch"

def arguments : Subject → Digest → Digest → List Arg
  | .valset v => v.arguments
  | .batch b => b.arguments

variable {x y : Subject}

theorem preimage_eq_ok {bridgeId : String} {p : List UInt8} :
    x.preimage bridgeId = .ok p ↔ ∃ id kind, Abi.tag bridgeId = .ok id ∧
      Abi.tag x.kindName = .ok kind ∧ encode (x.arguments id kind) = p := by
  cases x with
  | valset v => exact Valset.preimage_eq_ok
  | batch b => exact Batch.preimage_eq_ok

/-- The arguments start with the words of the id and of the kind. -/
theorem exists_arguments_eq (x : Subject) (id kind : Digest) :
    ∃ rest, x.arguments id kind = [id, kind].map Arg.word ++ rest := by
  cases x with
  | valset v => exact ⟨_, rfl⟩
  | batch b => exact ⟨_, rfl⟩

theorem words_eq_of_encode {id kind id' kind' : Digest}
    (h : encode (x.arguments id kind) = encode (y.arguments id' kind')) :
    id = id' ∧ kind = kind' := by
  obtain ⟨rest, hRest⟩ := x.exists_arguments_eq id kind
  obtain ⟨rest', hRest'⟩ := y.exists_arguments_eq id' kind'
  rw [hRest, hRest'] at h
  have hWords : [id, kind] = [id', kind'] := Abi.words_eq_of_encode rfl h
  simpa only [List.cons.injEq, and_true] using hWords

theorem kindName_eq_of_tag {kind : Digest} (hKind : Abi.tag x.kindName = .ok kind)
    (hKind' : Abi.tag y.kindName = .ok kind) : x.kindName = y.kindName := by
  have hPadded : padded x.kindName = padded y.kindName :=
    (Abi.tag_eq_ok.mp hKind).2.symm.trans (Abi.tag_eq_ok.mp hKind').2
  have hApart : padded "checkpoint" ≠ padded "transactionBatch" := by decide
  cases x with
  | valset v =>
    cases y with
    | valset w => rfl
    | batch b => exact absurd hPadded hApart
  | batch a =>
    cases y with
    | valset w => exact absurd hPadded.symm hApart
    | batch b => rfl

theorem agrees_of_encode {id kind : Digest} (hKind : x.kindName = y.kindName)
    (h : encode (x.arguments id kind) = encode (y.arguments id kind)) : x.Agrees y := by
  cases x with
  | valset v =>
    cases y with
    | valset w => exact (Valset.arguments_injective (Valset.eq_of_encode h)).2
    | batch b => exact absurd hKind (by decide : "checkpoint" ≠ "transactionBatch")
  | batch a =>
    cases y with
    | valset w => exact absurd hKind (by decide : "transactionBatch" ≠ "checkpoint")
    | batch b => exact (Batch.arguments_injective (Batch.eq_of_encode h)).2

theorem Agrees.arguments_eq (h : x.Agrees y) (id kind : Digest) :
    x.kindName = y.kindName ∧ x.arguments id kind = y.arguments id kind := by
  cases x with
  | valset v =>
    cases y with
    | valset w =>
      obtain ⟨hNonce, hMembers⟩ := h
      refine ⟨rfl, ?_⟩
      show v.arguments id kind = w.arguments id kind
      rw [Valset.arguments, Valset.arguments, hNonce, hMembers]
    | batch b => cases h
  | batch a =>
    cases y with
    | valset w => cases h
    | batch b =>
      obtain ⟨hValset, hPayouts, hNonce, hContract⟩ := h
      exact ⟨rfl, Batch.arguments_congr hValset hPayouts hNonce hContract⟩

theorem length_kindName (x : Subject) : (Text.utf8 x.kindName.toList).length ≤ 32 := by
  cases x with
  | valset v => exact (by decide : (Text.utf8 "checkpoint".toList).length ≤ 32)
  | batch b => exact (by decide : (Text.utf8 "transactionBatch".toList).length ≤ 32)

/-- Under an id that fits in a word every subject has a preimage. -/
theorem exists_preimage (x : Subject) {bridgeId : String}
    (hFits : (Text.utf8 bridgeId.toList).length ≤ 32) : ∃ p, x.preimage bridgeId = .ok p := by
  obtain ⟨id, hId, -⟩ := Abi.exists_tag hFits
  obtain ⟨kind, hKind, -⟩ := Abi.exists_tag x.length_kindName
  exact ⟨_, preimage_eq_ok.mpr ⟨id, kind, hId, hKind, rfl⟩⟩

/-- Under ids that fit in a word every subject has a preimage, and two preimages are equal exactly
if the ids are the same once they are filled up and the subjects agree. -/
theorem preimage_binds (x y : Subject) (bridgeId bridgeId' : String)
    (hFits : (Text.utf8 bridgeId.toList).length ≤ 32)
    (hFits' : (Text.utf8 bridgeId'.toList).length ≤ 32) :
    ∃ p q, x.preimage bridgeId = .ok p ∧ y.preimage bridgeId' = .ok q ∧
      (p = q ↔ padded bridgeId = padded bridgeId' ∧ x.Agrees y) := by
  obtain ⟨id, hId, hBytes⟩ := Abi.exists_tag hFits
  obtain ⟨id', hId', hBytes'⟩ := Abi.exists_tag hFits'
  obtain ⟨kind, hKind, -⟩ := Abi.exists_tag x.length_kindName
  obtain ⟨kind', hKind', -⟩ := Abi.exists_tag y.length_kindName
  refine ⟨_, _, preimage_eq_ok.mpr ⟨id, kind, hId, hKind, rfl⟩,
    preimage_eq_ok.mpr ⟨id', kind', hId', hKind', rfl⟩, ?_⟩
  constructor
  · intro h
    obtain ⟨rfl, rfl⟩ := words_eq_of_encode h
    exact ⟨hBytes.symm.trans hBytes', agrees_of_encode (kindName_eq_of_tag hKind hKind') h⟩
  · rintro ⟨hPadded, hAgrees⟩
    obtain ⟨hNames, hArguments⟩ := hAgrees.arguments_eq id kind
    have hSameId : id = id' :=
      Word.toBytes_injective (hBytes.trans (hPadded.trans hBytes'.symm))
    rw [hNames, hKind'] at hKind
    have hSameKind : kind' = kind := Except.ok.inj hKind
    rw [hArguments, hSameId, hSameKind]

/-- A batch of one transfer. -/
def loneTransfer (status : BatchStatus) : Batch :=
  { nonce := ⟨1⟩
    elements := [⟨1, ⟨.ofNat 20 2⟩, ⟨.ofNat 20 3⟩, ⟨⟨450, by decide⟩, "USD", ⟨.ofNat 20 7⟩⟩,
      ⟨⟨25, by decide⟩, "USD", ⟨.ofNat 20 7⟩⟩⟩]
    totalFee := ⟨⟨25, by decide⟩, "USD", ⟨.ofNat 20 7⟩⟩
    contract := ⟨.ofNat 20 7⟩
    valsetCheckpoint := .ofNat 32 9
    status }

/-- The batch keeps its preimage when it is executed, also under an id with a zero at its end; no
signer set has that preimage. -/
theorem preimage_of_loneTransfer :
    ∃ p, (batch (loneTransfer .pending)).preimage "mainnet" = .ok p ∧
      (batch (loneTransfer .executed)).preimage "mainnet\x00" = .ok p ∧
      (valset ⟨⟨1⟩, []⟩).preimage "mainnet" ≠ .ok p := by
  obtain ⟨p, q, hPending, hExecuted, hSame⟩ :=
    preimage_binds (batch (loneTransfer .pending)) (batch (loneTransfer .executed)) "mainnet"
      "mainnet\x00" (by decide) (by decide)
  obtain ⟨p', r, hPending', hValset, hApart⟩ :=
    preimage_binds (batch (loneTransfer .pending)) (valset ⟨⟨1⟩, []⟩) "mainnet" "mainnet"
      (by decide) (by decide)
  have hPair : p = q := hSame.mpr ⟨by decide, rfl, rfl, rfl, rfl⟩
  have hStart : p = p' := Except.ok.inj (hPending.symm.trans hPending')
  have hOther : p ≠ r := fun h => (hApart.mp (hStart.symm.trans h)).2
  refine ⟨p, hPending, hPair ▸ hExecuted, fun h => ?_⟩
  exact hOther (Except.ok.inj (h.symm.trans hValset))

end Subject

/-! ## Checkpoints -/

namespace Bridge

variable {b : Bridge}

theorem exists_hash {bytes : Except TagTooLong (List UInt8)} (h : ∃ p, bytes = .ok p)
    (fault : TagTooLong → BridgeError) :
    ∃ hash, (bytes.map keccak256).mapError fault = .ok hash := by
  obtain ⟨p, rfl⟩ := h
  exact ⟨keccak256 p, rfl⟩

theorem exists_checkpointOfValset (hParams : b.params.validate = .ok ()) (v : Valset) :
    ∃ hash, b.checkpointOfValset v = .ok hash :=
  exists_hash ((Subject.valset v).exists_preimage (Params.of_validate hParams).1) _

theorem exists_checkpointOfBatch (hParams : b.params.validate = .ok ()) (batch : Batch) :
    ∃ hash, b.checkpointOfBatch batch = .ok hash :=
  exists_hash ((Subject.batch batch).exists_preimage (Params.of_validate hParams).1) _

end Bridge

end TokenBridge

import TokenBridge.Bridge.Queries
import TokenBridge.Proofs.Confirmations.Streams

/-!
# Whose turn it is

A validator asks what it has to confirm next and is told the oldest thing that it has not confirmed.
That is what the check of its turn accepts: the answer to the question comes from the stored
confirmations and the check from the cursor, and along a run the two agree.

* `find?_least`: the first hit in a sorted list is the least one;
* `valsetToConfirm_eq_some`, `batchToConfirm_eq_some`: what the questions are answered with;
* `Paced.nextToConfirm_eq`: the oldest unconfirmed thing on a stream is next;
* `confirmOn`, `confirmOn_apply`: a confirmation on either kind of stream, once it is not a repeated
  one, is a check of the turn and then of the signature;
* `Next`, `turns_run`: the agreement of questions and checks.
-/

namespace TokenBridge

theorem find?_least {α : Type} {R : α → α → Prop} {p : α → Bool} {l : List α} {a : α}
    (hSorted : l.Pairwise R) (h : l.find? p = some a) :
    a ∈ l ∧ p a = true ∧ ∀ c ∈ l, p c = true → c = a ∨ R a c := by
  obtain ⟨hHit, before, after, rfl, hMiss⟩ := List.find?_eq_some_iff_append.mp h
  refine ⟨List.mem_append_right _ List.mem_cons_self, hHit, fun c hMem hAlso => ?_⟩
  rcases List.mem_append.mp hMem with hBefore | hRest
  · have hNot := hMiss c hBefore
    rw [hAlso] at hNot
    cases hNot
  · rcases List.mem_cons.mp hRest with hEq | hAfter
    · exact Or.inl hEq
    · have hRest := (List.pairwise_append.mp hSorted).2.1
      exact Or.inr ((List.pairwise_cons.mp hRest).1 c hAfter)

namespace Store

variable {s : Store} {validator : ValidatorAddress} {stream : ConfirmStream} {nonce : Nonce}

/-- The oldest thing on a stream that a validator has not confirmed is the next one. -/
theorem Paced.nextToConfirm_eq (h : s.Paced) (hShelved : s.Shelved)
    (hAwaits : s.Awaits stream nonce) (hOpen : ¬s.Confirms validator stream nonce)
    (hOldest : ∀ m, s.Awaits stream m → ¬s.Confirms validator stream m → nonce ≤ m) :
    Bridge.nextToConfirm (s.confirmCursor validator stream) (s.awaited stream) = .ok nonce := by
  refine (Bridge.nextToConfirm_eq_ok (hShelved.mem_awaited_iff.mpr hAwaits)).mpr ⟨?_, ?_⟩
  · rw [h.exactly validator stream nonce hAwaits] at hOpen
    exact Nat.not_le.mp hOpen
  · intro m hMem hAbove
    have hAwaitsM := hShelved.mem_awaited_iff.mp hMem
    refine hOldest m hAwaitsM fun hConfirms => ?_
    have hBelow := (h.exactly validator stream m hAwaitsM).mp hConfirms
    exact Nat.not_le.mpr hAbove hBelow

end Store

namespace Bridge

variable {b : Bridge} {validator : ValidatorAddress}

/-! ## Questions -/

theorem valsetToConfirm_eq_none (hKeyed : b.store.valsets.KeyedBy Valset.nonce) :
    b.valsetToConfirm validator = none ↔ ∀ nonce v, b.store.valset? nonce = some v →
      (b.store.valsetConfirm? nonce validator).isSome = true := by
  rw [valsetToConfirm, List.find?_eq_none]
  constructor
  · intro h nonce v hFound
    have hMissing := h v (Table.mem_values_of_find? hFound)
    rw [hKeyed _ _ hFound] at hMissing
    simpa [Option.isSome_iff_ne_none] using hMissing
  · intro h v hMem
    have hConfirmed := h v.nonce v ((Store.mem_valsets_iff hKeyed).mp hMem)
    simpa [Option.isSome_iff_ne_none] using hConfirmed

theorem valsetToConfirm_eq_some {v : Valset} (hKeyed : b.store.valsets.KeyedBy Valset.nonce)
    (h : b.valsetToConfirm validator = some v) :
    b.store.valset? v.nonce = some v ∧ b.store.valsetConfirm? v.nonce validator = none ∧
      ∀ nonce w, b.store.valset? nonce = some w →
        b.store.valsetConfirm? nonce validator = none → v.nonce ≤ nonce := by
  obtain ⟨hMem, hOpen, hLeast⟩ := find?_least (Store.pairwise_valsets hKeyed) h
  refine ⟨(Store.mem_valsets_iff hKeyed).mp hMem, Option.isNone_iff_eq_none.mp hOpen, ?_⟩
  intro nonce w hFound hOpen'
  have hNonce : w.nonce = nonce := hKeyed _ _ hFound
  subst hNonce
  rcases hLeast w (Table.mem_values_of_find? hFound) (Option.isNone_iff_eq_none.mpr hOpen')
    with rfl | hLess
  · exact Nat.le_refl _
  · exact Nat.le_of_lt hLess

theorem batchToConfirm_eq_none (hShelf : b.store.batches.KeyedBy Batch.key) :
    b.batchToConfirm validator = none ↔ ∀ contract nonce batch,
      b.store.batch? contract nonce = some batch → batch.isPending = true →
      (b.store.batchConfirm? contract nonce validator).isSome = true := by
  rw [batchToConfirm, List.find?_eq_none]
  simp only [(List.mergeSort_perm _ _).mem_iff]
  constructor
  · intro h contract nonce batch hFound hPending
    have hKey : batch.key = (contract, nonce) := hShelf _ _ hFound
    obtain ⟨rfl, rfl⟩ := Prod.mk.inj hKey
    have hMissing := h batch ((Store.mem_pendingBatches hShelf).mpr ⟨hFound, hPending⟩)
    simpa [Option.isSome_iff_ne_none] using hMissing
  · intro h batch hMem
    obtain ⟨hFound, hPending⟩ := (Store.mem_pendingBatches hShelf).mp hMem
    have hConfirmed := h batch.contract batch.nonce batch hFound hPending
    simpa [Option.isSome_iff_ne_none] using hConfirmed

theorem batchToConfirm_eq_some {batch : Batch} (hShelf : b.store.batches.KeyedBy Batch.key)
    (h : b.batchToConfirm validator = some batch) :
    b.store.batch? batch.contract batch.nonce = some batch ∧ batch.isPending = true ∧
      b.store.batchConfirm? batch.contract batch.nonce validator = none ∧
      ∀ contract nonce other, b.store.batch? contract nonce = some other →
        other.isPending = true → b.store.batchConfirm? contract nonce validator = none →
        batch.nonce ≤ nonce := by
  have hSorted : (b.store.pendingBatches.mergeSort fun x y => x.nonce ≤ y.nonce).Pairwise
      fun x y => decide (x.nonce ≤ y.nonce) = true := by
    refine List.pairwise_mergeSort (fun x y z hxy hyz => ?_) (fun x y => ?_) _
    · exact decide_eq_true (Nat.le_trans (of_decide_eq_true hxy) (of_decide_eq_true hyz))
    · rw [Bool.or_eq_true, decide_eq_true_iff, decide_eq_true_iff]
      exact Nat.le_total x.nonce.toNat y.nonce.toNat
  obtain ⟨hMem, hOpen, hLeast⟩ := find?_least hSorted h
  rw [(List.mergeSort_perm _ _).mem_iff] at hMem
  obtain ⟨hFound, hPending⟩ := (Store.mem_pendingBatches hShelf).mp hMem
  refine ⟨hFound, hPending, Option.isNone_iff_eq_none.mp hOpen, ?_⟩
  intro contract nonce other hFound' hPending' hOpen'
  have hKey : other.key = (contract, nonce) := hShelf _ _ hFound'
  obtain ⟨rfl, rfl⟩ := Prod.mk.inj hKey
  have hMem' := (List.mergeSort_perm _ fun x y : Batch => decide (x.nonce ≤ y.nonce)).mem_iff.mpr
    ((Store.mem_pendingBatches hShelf).mpr ⟨hFound', hPending'⟩)
  rcases hLeast other hMem' (Option.isNone_iff_eq_none.mpr hOpen') with rfl | hLess
  · exact Nat.le_refl _
  · exact of_decide_eq_true hLess

/-! ## Confirming -/

/-- Stores a confirmation if the turn, the checkpoint and the signature over it are right. -/
def acceptSigned (turn : Except BridgeError Unit) (checkpoint : Except BridgeError Digest)
    (signature : List UInt8) (key : EthAddress) (keep : EthSignature → Store → Store)
    (counter : Counter) : Handler ConfirmOutcome := do
  check turn
  let hash ← check checkpoint
  check (checkSignature hash signature key)
  let sig ← check (readSignature signature)
  write (keep sig)
  count counter
  return .stored

section

variable {turn : Except BridgeError Unit} {checkpoint : Except BridgeError Digest}
  {signature : List UInt8} {key : EthAddress} {keep : EthSignature → Store → Store}
  {counter : Counter} {hash : Digest}

theorem acceptSigned_of_error {refusal : BridgeError} (hTurn : turn = .error refusal) :
    acceptSigned turn checkpoint signature key keep counter b = .error refusal b := by
  rw [hTurn]
  rfl

/-- What is refused in its turn is refused for its checkpoint or its signature. -/
theorem acceptSigned_eq_error {refusal : BridgeError} {b' : Bridge} (hTurn : turn = .ok ())
    (h : acceptSigned turn checkpoint signature key keep counter b = .error refusal b') :
    checkpoint = .error refusal ∨ ∃ fault, refusal = .invalid (.signature fault) := by
  rw [acceptSigned, check_bind_of_ok hTurn] at h
  rcases bind_eq_error.mp h with hHash | ⟨hash, m, -, h⟩
  · exact Or.inl (check_eq_error.mp hHash).1
  rcases bind_eq_error.mp h with hSignature | ⟨_, m, -, h⟩
  · obtain ⟨fault, -, hRefusal⟩ := mapError_eq_error.mp (check_eq_error.mp hSignature).1
    exact Or.inr ⟨fault, hRefusal.symm⟩
  rcases bind_eq_error.mp h with hParts | ⟨sig, m, -, h⟩
  · obtain ⟨fault, -, hRefusal⟩ := mapError_eq_error.mp (check_eq_error.mp hParts).1
    exact Or.inr ⟨fault, hRefusal.symm⟩
  · have hSure : Sure (write (keep sig) >>= fun _ => count counter >>= fun _ =>
        (pure .stored : Handler ConfirmOutcome)) :=
      (sure_write _).bind fun _ => (sure_count _).bind fun _ => sure_pure _
    exact absurd h (hSure m refusal b')

theorem acceptSigned_of_recover (hTurn : turn = .ok ()) (hHash : checkpoint = .ok hash)
    (hRecover : EthSignature.recover hash signature = .ok key) :
    ∃ b', acceptSigned turn checkpoint signature key keep counter b = .ok .stored b' := by
  have hVerify : checkSignature hash signature key = .ok () :=
    mapError_eq_ok.mpr (EthSignature.verify_eq_ok.mpr hRecover)
  rw [EthSignature.recover] at hRecover
  obtain ⟨sig, hParts, -⟩ := checked_bind_eq_ok.mp hRecover
  have hRead : readSignature signature = .ok sig := mapError_eq_ok.mpr hParts
  rw [acceptSigned, check_bind_of_ok hTurn, check_bind_of_ok hHash, check_bind_of_ok hVerify,
    check_bind_of_ok hRead]
  exact ⟨_, rfl⟩

end

/-- Confirms what stands on a stream under a nonce. -/
def confirmOn (orchestrator : AccountAddress) (stream : ConfirmStream) (nonce : Nonce)
    (signature : List UInt8) : Handler ConfirmOutcome :=
  match stream with
  | .valset => confirmValset orchestrator nonce signature
  | .batch contract => confirmBatch orchestrator contract nonce signature

/-- The checkpoint of what stands on a stream under a nonce. -/
def checkpointOn (b : Bridge) (stream : ConfirmStream) (nonce : Nonce) :
    Except BridgeError Digest :=
  match stream with
  | .valset => b.valsetCheckpoint nonce
  | .batch contract => b.batchCheckpoint contract nonce

variable {orchestrator : AccountAddress} {key : EthAddress} {stream : ConfirmStream}
  {nonce : Nonce} {signature : List UInt8}

theorem valsetAt_of_find? {v : Valset} (h : b.store.valset? nonce = some v) :
    b.valsetAt nonce = .ok v := by
  rw [valsetAt, h]

theorem batchAt_of_find? {contract : EthAddress} {batch : Batch}
    (h : b.store.batch? contract nonce = some batch) : b.batchAt contract nonce = .ok batch := by
  rw [batchAt, h]

/-- Where something is to be confirmed that the validator has not confirmed yet, the turn is checked
and then the signature. -/
theorem confirmOn_apply (hConfirmer : b.confirmer orchestrator = .ok (validator, key))
    (hAwaits : b.store.Awaits stream nonce) (hOpen : ¬b.store.Confirms validator stream nonce)
    (signature : List UInt8) :
    ∃ keep counter, confirmOn orchestrator stream nonce signature b =
      acceptSigned (b.checkTurn validator stream (b.store.awaited stream) nonce)
        (b.checkpointOn stream nonce) signature key keep counter b := by
  cases stream with
  | valset =>
    obtain ⟨v, hValset⟩ := hAwaits
    have hAt := valsetAt_of_find? hValset
    have hNew : ¬(b.store.valsetConfirm? nonce validator).isSome = true := hOpen
    refine ⟨fun sig s => (s.putValsetConfirm ⟨nonce, validator, orchestrator, key,
      sig⟩).setConfirmCursor validator .valset nonce, .valsetConfirmed, ?_⟩
    rw [confirmOn, confirmValset, get_bind_apply, check_bind_of_ok hConfirmer]
    show (check (b.valsetAt nonce) >>= _) b = _
    rw [check_bind_of_ok hAt, if_neg hNew, checkpointOn, valsetCheckpoint, hAt]
    rfl
  | batch contract =>
    obtain ⟨batch, hBatch, hPending⟩ := hAwaits
    have hAt := batchAt_of_find? hBatch
    have hNew : ¬(b.store.batchConfirm? contract nonce validator).isSome = true := hOpen
    refine ⟨fun sig s => (s.putBatchConfirm ⟨nonce, contract, validator, orchestrator, key,
      sig⟩).setConfirmCursor validator (.batch contract) nonce, .batchConfirmed, ?_⟩
    rw [confirmOn, confirmBatch, get_bind_apply, check_bind_of_ok hConfirmer]
    show (check (b.batchAt contract nonce) >>= _) b = _
    rw [check_bind_of_ok hAt, checkpointOn, batchCheckpoint, hAt]
    simp only [hPending, Bool.not_true, Bool.false_eq_true, if_false]
    rw [if_neg hNew]
    rfl

theorem checkTurn_eq_error {nonces : List Nonce} {expected : Nonce}
    (hNext : nextToConfirm (b.store.confirmCursor validator stream) nonces = .ok expected)
    (hOther : nonce ≠ expected) :
    b.checkTurn validator stream nonces nonce = .error (.outOfSequence expected nonce) := by
  rw [checkTurn, hNext]
  exact if_pos hOther

theorem checkpointOn_ne_outOfSequence (hAwaits : b.store.Awaits stream nonce)
    (expected got : Nonce) :
    b.checkpointOn stream nonce ≠ .error (.outOfSequence expected got) := by
  intro h
  cases stream with
  | valset =>
    obtain ⟨v, hValset⟩ := hAwaits
    have hAt := valsetAt_of_find? hValset
    rw [checkpointOn, valsetCheckpoint, hAt] at h
    obtain ⟨fault, -, hFatal⟩ := mapError_eq_error.mp h
    cases hFatal
  | batch contract =>
    obtain ⟨batch, hBatch, -⟩ := hAwaits
    have hAt := batchAt_of_find? hBatch
    rw [checkpointOn, batchCheckpoint, hAt] at h
    obtain ⟨fault, -, hFatal⟩ := mapError_eq_error.mp h
    cases hFatal

/-! ## Questions and checks -/

/-- What a validator confirms next on a stream. An account that acts for the validator, with a key,
is never refused there because of the turn; with a signature of the key over the checkpoint the
confirmation is stored. Anything else on the stream that the validator has not confirmed is refused,
and the refusal names what is next. -/
structure Next (b : Bridge) (validator : ValidatorAddress) (stream : ConfirmStream)
    (nonce : Nonce) : Prop where
  awaits : b.store.Awaits stream nonce
  unconfirmed : ¬b.store.Confirms validator stream nonce
  inTurn : ∀ orchestrator key signature, b.confirmer orchestrator = .ok (validator, key) →
    ∀ expected got b', confirmOn orchestrator stream nonce signature b ≠
      .error (.outOfSequence expected got) b'
  accepted : ∀ orchestrator key signature hash, b.confirmer orchestrator = .ok (validator, key) →
    b.checkpointOn stream nonce = .ok hash → EthSignature.recover hash signature = .ok key →
    ∃ b', confirmOn orchestrator stream nonce signature b = .ok .stored b'
  others : ∀ orchestrator key signature m, b.confirmer orchestrator = .ok (validator, key) →
    b.store.Awaits stream m → ¬b.store.Confirms validator stream m → m ≠ nonce →
    confirmOn orchestrator stream m signature b = .error (.outOfSequence nonce m) b

/-- The oldest thing on a stream that a validator has not confirmed is what it confirms next. -/
theorem next_of_oldest (hShelved : b.store.Shelved) (hPaced : b.store.Paced)
    (hAwaits : b.store.Awaits stream nonce) (hOpen : ¬b.store.Confirms validator stream nonce)
    (hOldest : ∀ m, b.store.Awaits stream m → ¬b.store.Confirms validator stream m → nonce ≤ m) :
    b.Next validator stream nonce := by
  have hNext := hPaced.nextToConfirm_eq hShelved hAwaits hOpen hOldest
  have hTurn : b.checkTurn validator stream (b.store.awaited stream) nonce = .ok () :=
    checkTurn_eq_ok.mpr hNext
  refine ⟨hAwaits, hOpen, fun orchestrator key signature hConfirmer expected got b' h => ?_,
    fun orchestrator key signature hash hConfirmer hHash hRecover => ?_,
    fun orchestrator key signature m hConfirmer hAwaitsM hOpenM hOther => ?_⟩
  · obtain ⟨keep, counter, hApply⟩ := confirmOn_apply hConfirmer hAwaits hOpen signature
    rw [hApply] at h
    rcases acceptSigned_eq_error hTurn h with hHash | ⟨fault, hFault⟩
    · exact checkpointOn_ne_outOfSequence hAwaits expected got hHash
    · cases hFault
  · obtain ⟨keep, counter, hApply⟩ := confirmOn_apply hConfirmer hAwaits hOpen signature
    rw [hApply]
    exact acceptSigned_of_recover hTurn hHash hRecover
  · obtain ⟨keep, counter, hApply⟩ := confirmOn_apply hConfirmer hAwaitsM hOpenM signature
    rw [hApply]
    exact acceptSigned_of_error (checkTurn_eq_error hNext hOther)

theorem next_of_valsetToConfirm {v : Valset} (hShelved : b.store.Shelved)
    (hPaced : b.store.Paced) (h : b.valsetToConfirm validator = some v) :
    b.store.valset? v.nonce = some v ∧ b.Next validator .valset v.nonce := by
  obtain ⟨hFound, hOpen, hOldest⟩ := valsetToConfirm_eq_some hShelved.canonical.keyed h
  have hNone {m : Nonce} : ¬b.store.Confirms validator .valset m ↔
      b.store.valsetConfirm? m validator = none := by
    rw [Store.Confirms, Option.not_isSome_iff_eq_none]
  refine ⟨hFound, next_of_oldest hShelved hPaced ⟨v, hFound⟩ (hNone.mpr hOpen) ?_⟩
  rintro m ⟨w, hFound'⟩ hOpen'
  exact hOldest m w hFound' (hNone.mp hOpen')

theorem next_of_batchToConfirm {batch : Batch} (hShelved : b.store.Shelved)
    (hPaced : b.store.Paced) (h : b.batchToConfirm validator = some batch) :
    b.store.batch? batch.contract batch.nonce = some batch ∧ batch.isPending = true ∧
      b.Next validator (.batch batch.contract) batch.nonce := by
  obtain ⟨hFound, hPending, hOpen, hOldest⟩ := batchToConfirm_eq_some hShelved.housed.shelf h
  have hNone {m : Nonce} : ¬b.store.Confirms validator (.batch batch.contract) m ↔
      b.store.batchConfirm? batch.contract m validator = none := by
    rw [Store.Confirms, Option.not_isSome_iff_eq_none]
  refine ⟨hFound, hPending, next_of_oldest hShelved hPaced ⟨batch, hFound, hPending⟩
    (hNone.mpr hOpen) ?_⟩
  rintro m ⟨other, hFound', hPending'⟩ hOpen'
  exact hOldest batch.contract m other hFound' hPending' (hNone.mp hOpen')

/-- **Turns.** After a run from an empty store the cursor of a validator on a stream tells exactly
what it has confirmed of the stored signer sets, or of the pending batches of a contract. The
question for what is to be confirmed is answered with nothing exactly if the validator has confirmed
all of it, and otherwise with what it confirms next. -/
theorem turns_run (origin : Bridge) (events : List Event) (validator : ValidatorAddress) :
    let b := origin.blank.run events
    (∀ nonce v, b.store.valset? nonce = some v →
      ((b.store.valsetConfirm? nonce validator).isSome = true ↔
        nonce ≤ b.store.confirmCursor validator .valset)) ∧
    (∀ contract nonce batch, b.store.batch? contract nonce = some batch →
      batch.isPending = true → ((b.store.batchConfirm? contract nonce validator).isSome = true ↔
        nonce ≤ b.store.confirmCursor validator (.batch contract))) ∧
    (b.valsetToConfirm validator = none ↔ ∀ nonce v, b.store.valset? nonce = some v →
      (b.store.valsetConfirm? nonce validator).isSome = true) ∧
    (b.batchToConfirm validator = none ↔ ∀ contract nonce batch,
      b.store.batch? contract nonce = some batch → batch.isPending = true →
      (b.store.batchConfirm? contract nonce validator).isSome = true) ∧
    (∀ v, b.valsetToConfirm validator = some v →
      b.store.valset? v.nonce = some v ∧ b.Next validator .valset v.nonce) ∧
    (∀ batch, b.batchToConfirm validator = some batch →
      b.store.batch? batch.contract batch.nonce = some batch ∧ batch.isPending = true ∧
        b.Next validator (.batch batch.contract) batch.nonce) := by
  intro b
  obtain ⟨hShelved, hPaced⟩ := paced_run origin events
  refine ⟨fun nonce v hFound => ?_, fun contract nonce batch hFound hPending => ?_,
    valsetToConfirm_eq_none hShelved.canonical.keyed, batchToConfirm_eq_none hShelved.housed.shelf,
    fun v => next_of_valsetToConfirm hShelved hPaced,
    fun batch => next_of_batchToConfirm hShelved hPaced⟩
  · exact hPaced.exactly validator .valset nonce ⟨v, hFound⟩
  · exact hPaced.exactly validator (.batch contract) nonce ⟨batch, hFound, hPending⟩

end Bridge

end TokenBridge

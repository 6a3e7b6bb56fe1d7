import TokenBridge.Proofs.Confirmations.Progress

/-!
# Streams of confirmations

Signer sets are confirmed on one stream and the batches of each contract on another. The cursor of a
validator on a stream tells exactly what the validator has confirmed of what waits there, although
signer sets are forgotten, batches are cancelled or executed, and validators come late.

* `Store.Awaits`, `Store.Confirms`, `Store.lastOpened`: a stream as confirmations see it;
* `nextToConfirm_eq_ok`: the nonce that is confirmed next is the least one above the cursor;
* `Store.Paced`: the invariant, with `Paced.renew` and `Paced.confirm` for the two kinds of change;
* `paced_step`, `paced_run`: it is kept.
-/

namespace TokenBridge

/-! ## The least nonce above a cursor -/

instance : Std.IsLinearOrder Nonce where
  le_refl n := Nat.le_refl n.toNat
  le_trans _ _ _ := Nat.le_trans
  le_antisymm _ _ h h' := Nonce.ext_toNat (Nat.le_antisymm h h')
  le_total m n := Nat.le_total m.toNat n.toNat

theorem Nonce.min_def (m n : Nonce) : min m n = if m ≤ n then m else n := rfl

instance : Std.LawfulOrderMin Nonce where
  min_eq_or m n := by
    rw [Nonce.min_def]
    by_cases h : m ≤ n
    · exact Or.inl (if_pos h)
    · exact Or.inr (if_neg h)
  le_min_iff k m n := by
    rw [Nonce.min_def]
    show k.toNat ≤ (if m ≤ n then m else n).toNat ↔ k.toNat ≤ m.toNat ∧ k.toNat ≤ n.toNat
    by_cases h : m ≤ n
    · rw [if_pos h]
      have h : m.toNat ≤ n.toNat := h
      omega
    · rw [if_neg h]
      have h : ¬m.toNat ≤ n.toNat := h
      omega

theorem Bridge.lt_of_following {m n : Nonce} (h : following m = .ok n) : m < n :=
  Nat.lt_of_succ_le (Nat.le_of_eq (following_eq_ok h).symm)

/-- Of the nonces above the cursor the least one is confirmed next. -/
theorem Bridge.nextToConfirm_eq_ok {cursor nonce : Nonce} {nonces : List Nonce}
    (hMem : nonce ∈ nonces) :
    nextToConfirm cursor nonces = .ok nonce ↔
      cursor < nonce ∧ ∀ m ∈ nonces, cursor < m → nonce ≤ m := by
  have hLeast : (nonces.filter (cursor < ·)).min? = some nonce ↔
      cursor < nonce ∧ ∀ m ∈ nonces, cursor < m → nonce ≤ m := by
    rw [List.min?_eq_some_iff, List.mem_filter, decide_eq_true_iff]
    simp only [List.mem_filter, decide_eq_true_iff, hMem, true_and, and_imp]
  rw [← hLeast, nextToConfirm]
  cases hMin : (nonces.filter (cursor < ·)).min? with
  | some least => rw [Except.ok.injEq, Option.some.injEq]
  | none =>
    refine ⟨fun h => ?_, fun h => by cases h⟩
    -- the nonce after the cursor would be among those above it
    have hAbove : cursor < nonce := lt_of_following h
    have hFiltered : nonce ∈ nonces.filter (cursor < ·) :=
      List.mem_filter.mpr ⟨hMem, decide_eq_true hAbove⟩
    rw [List.min?_eq_none_iff.mp hMin] at hFiltered
    exact absurd hFiltered List.not_mem_nil

theorem Bridge.checkTurn_eq_ok {b : Bridge} {validator : ValidatorAddress} {stream : ConfirmStream}
    {nonces : List Nonce} {nonce : Nonce} :
    b.checkTurn validator stream nonces nonce = .ok () ↔
      nextToConfirm (b.store.confirmCursor validator stream) nonces = .ok nonce := by
  rw [checkTurn, checked_bind_eq_ok]
  constructor
  · rintro ⟨expected, hNext, h⟩
    by_cases hOther : nonce ≠ expected
    · rw [if_pos hOther] at h
      cases h
    · rw [hNext, Decidable.not_not.mp hOther]
  · exact fun hNext => ⟨nonce, hNext, if_neg fun hOther => hOther rfl⟩

namespace Store

variable {s s' : Store} {validator : ValidatorAddress} {stream : ConfirmStream} {nonce : Nonce}

/-! ## A stream -/

/-- Something on a stream is there to be confirmed under a nonce: a stored signer set, or a pending
batch. -/
def Awaits (s : Store) : ConfirmStream → Nonce → Prop
  | .valset, nonce => ∃ v, s.valset? nonce = some v
  | .batch contract, nonce => ∃ batch, s.batch? contract nonce = some batch ∧
      batch.isPending = true

/-- A confirmation of a validator on a stream is stored under a nonce. -/
def Confirms (s : Store) (validator : ValidatorAddress) : ConfirmStream → Nonce → Prop
  | .valset, nonce => (s.valsetConfirm? nonce validator).isSome = true
  | .batch contract, nonce => (s.batchConfirm? contract nonce validator).isSome = true

/-- The nonces on a stream, as the check of a validator's turn is given them. -/
def awaited (s : Store) : ConfirmStream → List Nonce
  | .valset => s.valsets.values.map Valset.nonce
  | .batch contract => (s.pendingBatchesOf contract).map Batch.nonce

/-- The last nonce that was given out on a stream. -/
def lastOpened (s : Store) : ConfirmStream → Nonce
  | .valset => s.newestValset
  | .batch _ => s.lastBatchNonce

theorem mem_pendingBatches {batch : Batch} (hShelf : s.batches.KeyedBy Batch.key) :
    batch ∈ s.pendingBatches ↔
      s.batch? batch.contract batch.nonce = some batch ∧ batch.isPending = true := by
  rw [pendingBatches, List.mem_filter, hShelf.mem_values_iff]
  rfl

theorem Shelved.mem_awaited_iff (h : s.Shelved) :
    nonce ∈ s.awaited stream ↔ s.Awaits stream nonce := by
  cases stream with
  | valset =>
    rw [awaited, List.mem_map]
    constructor
    · rintro ⟨v, hMem, rfl⟩
      exact ⟨v, (mem_valsets_iff h.canonical.keyed).mp hMem⟩
    · rintro ⟨v, hFound⟩
      exact ⟨v, Table.mem_values_of_find? hFound, h.canonical.keyed _ _ hFound⟩
  | batch contract =>
    rw [awaited, List.mem_map]
    constructor
    · rintro ⟨batch, hMem, rfl⟩
      obtain ⟨hPending, hContract⟩ := List.mem_filter.mp hMem
      obtain ⟨hFound, hPending⟩ := (mem_pendingBatches h.housed.shelf).mp hPending
      exact ⟨batch, beq_iff_eq.mp hContract ▸ hFound, hPending⟩
    · rintro ⟨batch, hFound, hPending⟩
      have hKey : batch.key = (contract, nonce) := h.housed.shelf _ _ hFound
      obtain ⟨rfl, rfl⟩ := Prod.mk.inj hKey
      have hMem := (mem_pendingBatches h.housed.shelf).mpr ⟨hFound, hPending⟩
      exact ⟨batch, List.mem_filter.mpr ⟨hMem, beq_self_eq_true _⟩, rfl⟩

theorem Shelved.le_lastBatchNonce {contract : EthAddress} {batch : Batch} (h : s.Shelved)
    (hFound : s.batch? contract nonce = some batch) : nonce ≤ s.lastBatchNonce := by
  have hKey : batch.key = (contract, nonce) := h.housed.shelf _ _ hFound
  have hBehind := h.housed.behind batch (Table.mem_values_of_find? hFound)
  rwa [(Prod.mk.inj hKey).2] at hBehind

theorem Shelved.le_lastOpened (h : s.Shelved) (hAwaits : s.Awaits stream nonce) :
    nonce ≤ s.lastOpened stream := by
  cases stream with
  | valset =>
    obtain ⟨v, hFound⟩ := hAwaits
    exact le_newestValset h.canonical.keyed hFound
  | batch contract =>
    obtain ⟨batch, hFound, -⟩ := hAwaits
    exact h.le_lastBatchNonce hFound

theorem Shelved.not_confirms (h : s.Shelved) (hAbove : s.lastOpened stream < nonce) :
    ¬s.Confirms validator stream nonce := by
  refine fun hConfirms => Nat.not_le.mpr hAbove ?_
  cases stream with
  | valset =>
    obtain ⟨c, hFound⟩ := Option.isSome_iff_exists.mp hConfirms
    obtain ⟨-, v, hValset⟩ := h.referred.exists_valset hFound
    exact le_newestValset h.canonical.keyed hValset
  | batch contract =>
    obtain ⟨c, hFound⟩ := Option.isSome_iff_exists.mp hConfirms
    obtain ⟨-, batch, hBatch⟩ := h.referred.exists_batch hFound
    exact h.le_lastBatchNonce hBatch

/-! ## The invariant -/

/-- Of what is to be confirmed on a stream, a validator has confirmed what is not above its cursor,
and no cursor is above the last nonce given out. -/
structure Paced (s : Store) : Prop where
  exactly : ∀ validator stream nonce, s.Awaits stream nonce →
    (s.Confirms validator stream nonce ↔ nonce ≤ s.confirmCursor validator stream)
  reach : ∀ validator stream, s.confirmCursor validator stream ≤ s.lastOpened stream

theorem paced_empty : empty.Paced where
  exactly validator stream nonce hAwaits := by
    cases stream with
    | valset =>
      obtain ⟨v, hFound⟩ := hAwaits
      cases hFound
    | batch contract =>
      obtain ⟨batch, hFound, -⟩ := hAwaits
      cases hFound
  reach _ _ := Nat.zero_le _

theorem confirmCursor_congr (hCursors : s'.confirmCursors = s.confirmCursors)
    (validator : ValidatorAddress) (stream : ConfirmStream) :
    s'.confirmCursor validator stream = s.confirmCursor validator stream := by
  rw [confirmCursor, hCursors, confirmCursor]

theorem confirmCursor_insert
    (hCursors : s'.confirmCursors = s.confirmCursors.insert (validator, stream) nonce)
    (w : ValidatorAddress) (other : ConfirmStream) :
    s'.confirmCursor w other =
      if (w, other) = (validator, stream) then nonce else s.confirmCursor w other := by
  rw [confirmCursor, hCursors, Table.find?_insert]
  by_cases hOwn : (w, other) = (validator, stream)
  · rw [if_pos hOwn, if_pos hOwn, Option.getD_some]
  · rw [if_neg hOwn, if_neg hOwn, confirmCursor]

/-- The cursors stay right where what is to be confirmed was so before, with the same confirmations,
or stands under a nonce that was not given out yet. -/
theorem Paced.renew (h : s.Paced)
    (hAwaits : ∀ stream nonce, s'.Awaits stream nonce →
      s.lastOpened stream < nonce ∧ (∀ validator, ¬s'.Confirms validator stream nonce) ∨
      s.Awaits stream nonce ∧ ∀ validator,
        (s'.Confirms validator stream nonce ↔ s.Confirms validator stream nonce))
    (hCursors : s'.confirmCursors = s.confirmCursors)
    (hOpened : ∀ stream, s.lastOpened stream ≤ s'.lastOpened stream) : s'.Paced := by
  have hCursor := confirmCursor_congr hCursors
  refine ⟨fun validator stream nonce hNow => ?_, fun validator stream => ?_⟩
  · rw [hCursor]
    rcases hAwaits stream nonce hNow with ⟨hAbove, hNone⟩ | ⟨hOld, hSame⟩
    · refine ⟨fun hConfirms => absurd hConfirms (hNone validator), fun hLe => ?_⟩
      have hReach : nonce.toNat ≤ (s.lastOpened stream).toNat :=
        Nat.le_trans hLe (h.reach validator stream)
      exact absurd hReach (Nat.not_le.mpr hAbove)
    · rw [hSame]
      exact h.exactly validator stream nonce hOld
  · rw [hCursor]
    exact Nat.le_trans (h.reach validator stream) (hOpened stream)

/-- The cursors stay right where a validator confirms the least nonce above its cursor. -/
theorem Paced.confirm (h : s.Paced) (hAbove : s.confirmCursor validator stream < nonce)
    (hLeast : ∀ m, s.Awaits stream m → s.confirmCursor validator stream < m → nonce ≤ m)
    (hReach : nonce ≤ s.lastOpened stream)
    (hAwaits : ∀ stream nonce, s'.Awaits stream nonce → s.Awaits stream nonce)
    (hConfirms : ∀ w other m, s'.Confirms w other m ↔
      w = validator ∧ other = stream ∧ m = nonce ∨ s.Confirms w other m)
    (hCursors : s'.confirmCursors = s.confirmCursors.insert (validator, stream) nonce)
    (hOpened : ∀ stream, s'.lastOpened stream = s.lastOpened stream) : s'.Paced := by
  have hCursor := confirmCursor_insert hCursors
  refine ⟨fun w other m hNow => ?_, fun w other => ?_⟩
  · have hOld := h.exactly w other m (hAwaits other m hNow)
    rw [hConfirms, hCursor, hOld]
    by_cases hOwn : (w, other) = (validator, stream)
    · obtain ⟨rfl, rfl⟩ := Prod.mk.inj hOwn
      rw [if_pos rfl]
      -- nothing to be confirmed lies between the old cursor and the new one
      have hBetween := hLeast m (hAwaits other m hNow)
      constructor
      · rintro (⟨-, -, rfl⟩ | hLe)
        · exact Nat.le_refl _
        · exact Nat.le_of_lt (Nat.lt_of_le_of_lt hLe hAbove)
      · intro hLe
        by_cases hBelow : m ≤ s.confirmCursor w other
        · exact Or.inr hBelow
        · have hMore : nonce ≤ m := hBetween (Nat.not_le.mp hBelow)
          exact Or.inl ⟨rfl, rfl, Nonce.ext_toNat (Nat.le_antisymm hLe hMore)⟩
    · rw [if_neg hOwn]
      refine ⟨fun hEither => hEither.resolve_left ?_, Or.inr⟩
      rintro ⟨rfl, rfl, -⟩
      exact hOwn rfl
  · rw [hCursor, hOpened]
    by_cases hOwn : (w, other) = (validator, stream)
    · obtain ⟨rfl, rfl⟩ := Prod.mk.inj hOwn
      rw [if_pos rfl]
      exact hReach
    · rw [if_neg hOwn]
      exact h.reach w other

/-! ## What each event does -/

theorem Paced.thins (h : s.Paced) (hThins : s.Thins s') : s'.Paced := by
  refine h.renew (fun stream nonce hNow => Or.inr ?_) hThins.confirmCursors fun stream => ?_
  · cases stream with
    | valset =>
      obtain ⟨v, hFound⟩ := hNow
      obtain ⟨hOld, hSame⟩ := hThins.valset nonce v hFound
      refine ⟨⟨v, hOld⟩, fun validator => ?_⟩
      rw [Confirms, Confirms, hSame]
    | batch contract =>
      obtain ⟨batch, hFound, hPending⟩ := hNow
      obtain ⟨⟨old, hOld, hBecomes⟩, hSame⟩ := hThins.batch contract nonce batch hFound
      rw [hBecomes.eq_of_isPending hPending] at hPending
      refine ⟨⟨old, hOld, hPending⟩, fun validator => ?_⟩
      rw [Confirms, Confirms, hSame]
  · cases stream with
    | valset => exact Nat.le_of_eq (congrArg Nonce.toNat hThins.newestValset.symm)
    | batch contract => exact Nat.le_of_eq (congrArg Nonce.toNat hThins.lastBatchNonce.symm)

theorem Paced.putValset {v : Valset} (h : s.Paced) (hShelved : s.Shelved)
    (hAbove : s.newestValset < v.nonce) : (s.putValset v).Paced := by
  have hNone : ∀ validator, ¬s.Confirms validator .valset v.nonce := fun _ =>
    hShelved.not_confirms hAbove
  refine h.renew (fun stream nonce hNow => ?_) rfl fun stream => ?_
  · cases stream with
    | valset =>
      obtain ⟨w, hFound⟩ := hNow
      rw [valset?_putValset] at hFound
      by_cases hNew : nonce = v.nonce
      · rw [hNew]
        exact Or.inl ⟨hAbove, hNone⟩
      · rw [if_neg hNew] at hFound
        exact Or.inr ⟨⟨w, hFound⟩, fun _ => Iff.rfl⟩
    | batch contract => exact Or.inr ⟨hNow, fun _ => Iff.rfl⟩
  · cases stream with
    | valset =>
      show s.newestValset ≤ (s.putValset v).newestValset
      rw [newestValset_putValset hShelved.canonical.keyed hAbove]
      exact Nat.le_of_lt hAbove
    | batch contract => exact Nat.le_refl _

theorem Paced.takeBatch {batch : Batch} (h : s.Paced) (hShelved : s.Shelved)
    (hAbove : s.lastBatchNonce < batch.nonce) : (s.takeBatch batch).Paced := by
  have hNone : ∀ validator, ¬s.Confirms validator (.batch batch.contract) batch.nonce := fun _ =>
    hShelved.not_confirms hAbove
  rw [takeBatch_eq]
  refine h.renew (fun stream nonce hNow => ?_) rfl fun stream => ?_
  · cases stream with
    | valset => exact Or.inr ⟨hNow, fun _ => Iff.rfl⟩
    | batch contract =>
      obtain ⟨found, hFound, hPending⟩ := hNow
      rw [batch?, Table.find?_insert] at hFound
      by_cases hNew : (contract, nonce) = (batch.contract, batch.nonce)
      · obtain ⟨rfl, rfl⟩ := Prod.mk.inj hNew
        exact Or.inl ⟨hAbove, hNone⟩
      · rw [if_neg hNew] at hFound
        exact Or.inr ⟨⟨found, hFound, hPending⟩, fun _ => Iff.rfl⟩
  · cases stream with
    | valset => exact Nat.le_refl _
    | batch contract => exact Nat.le_of_lt hAbove

theorem Paced.putValsetConfirm {c : ValsetConfirm} (h : s.Paced) (hShelved : s.Shelved)
    (hAwaits : s.Awaits .valset c.nonce)
    (hAbove : s.confirmCursor c.validator .valset < c.nonce)
    (hLeast : ∀ m, s.Awaits .valset m → s.confirmCursor c.validator .valset < m → c.nonce ≤ m) :
    ((s.putValsetConfirm c).setConfirmCursor c.validator .valset c.nonce).Paced := by
  refine h.confirm hAbove hLeast (hShelved.le_lastOpened hAwaits) (fun stream nonce hNow => ?_)
    (fun w other m => ?_) rfl fun stream => ?_
  · cases stream with
    | valset => exact hNow
    | batch contract => exact hNow
  · cases other with
    | valset =>
      show ((s.valsetConfirms.insert c.key c).find? (m, w)).isSome = true ↔ _
      rw [Table.find?_insert]
      by_cases hOwn : (m, w) = c.key
      · rw [if_pos hOwn]
        obtain ⟨rfl, rfl⟩ := Prod.mk.inj hOwn
        exact ⟨fun _ => Or.inl ⟨rfl, rfl, rfl⟩, fun _ => rfl⟩
      · rw [if_neg hOwn]
        refine ⟨Or.inr, fun hEither => hEither.resolve_left ?_⟩
        rintro ⟨rfl, -, rfl⟩
        exact hOwn rfl
    | batch contract =>
      refine ⟨Or.inr, fun hEither => hEither.resolve_left ?_⟩
      rintro ⟨-, hOther, -⟩
      cases hOther
  · cases stream with
    | valset => rfl
    | batch contract => rfl

theorem Paced.putBatchConfirm {c : BatchConfirm} (h : s.Paced) (hShelved : s.Shelved)
    (hAwaits : s.Awaits (.batch c.contract) c.nonce)
    (hAbove : s.confirmCursor c.validator (.batch c.contract) < c.nonce)
    (hLeast : ∀ m, s.Awaits (.batch c.contract) m →
      s.confirmCursor c.validator (.batch c.contract) < m → c.nonce ≤ m) :
    ((s.putBatchConfirm c).setConfirmCursor c.validator (.batch c.contract) c.nonce).Paced := by
  refine h.confirm hAbove hLeast (hShelved.le_lastOpened hAwaits) (fun stream nonce hNow => ?_)
    (fun w other m => ?_) rfl fun stream => ?_
  · cases stream with
    | valset => exact hNow
    | batch contract => exact hNow
  · cases other with
    | valset =>
      refine ⟨Or.inr, fun hEither => hEither.resolve_left ?_⟩
      rintro ⟨-, hOther, -⟩
      cases hOther
    | batch contract =>
      show ((s.batchConfirms.insert c.key c).find? (contract, m, w)).isSome = true ↔ _
      rw [Table.find?_insert]
      by_cases hOwn : (contract, m, w) = c.key
      · rw [if_pos hOwn]
        obtain ⟨rfl, hRest⟩ := Prod.mk.inj hOwn
        obtain ⟨rfl, rfl⟩ := Prod.mk.inj hRest
        exact ⟨fun _ => Or.inl ⟨rfl, rfl, rfl⟩, fun _ => rfl⟩
      · rw [if_neg hOwn]
        refine ⟨Or.inr, fun hEither => hEither.resolve_left ?_⟩
        rintro ⟨rfl, hStream, rfl⟩
        cases hStream
        exact hOwn rfl
  · cases stream with
    | valset => rfl
    | batch contract => rfl

end Store

namespace Bridge

variable {b b' : Bridge} {event : Event} {validator : ValidatorAddress} {stream : ConfirmStream}
  {nonce : Nonce}

/-- The turn of a validator is at the least nonce on the stream above its cursor. -/
theorem checkTurn_awaited_eq_ok (hShelved : b.store.Shelved)
    (hAwaits : b.store.Awaits stream nonce) :
    b.checkTurn validator stream (b.store.awaited stream) nonce = .ok () ↔
      b.store.confirmCursor validator stream < nonce ∧ ∀ m, b.store.Awaits stream m →
        b.store.confirmCursor validator stream < m → nonce ≤ m := by
  rw [checkTurn_eq_ok, nextToConfirm_eq_ok (hShelved.mem_awaited_iff.mpr hAwaits)]
  simp only [hShelved.mem_awaited_iff]

theorem paced_step (h : b.store.Paced) (hShelved : b.store.Shelved) (hStep : Step b event b') :
    b'.store.Paced := by
  generalize hStore : b'.store = s
  cases hStore ▸ progressed_of_step hShelved hStep with
  | thinned hThins => exact h.thins hThins
  | valsetMade hNonce => exact h.putValset hShelved (lt_of_following hNonce)
  | batchMade hNonce => exact h.takeBatch hShelved (lt_of_following hNonce)
  | @valsetConfirmed c v _ hValset hTurn =>
    have hAwaits : b.store.Awaits .valset c.nonce := ⟨v, hValset⟩
    obtain ⟨hAbove, hLeast⟩ := (checkTurn_awaited_eq_ok hShelved hAwaits).mp hTurn
    exact h.putValsetConfirm hShelved hAwaits hAbove hLeast
  | @batchConfirmed c batch _ hBatch hPending hTurn =>
    have hAwaits : b.store.Awaits (.batch c.contract) c.nonce := ⟨batch, hBatch, hPending⟩
    obtain ⟨hAbove, hLeast⟩ := (checkTurn_awaited_eq_ok hShelved hAwaits).mp hTurn
    exact h.putBatchConfirm hShelved hAwaits hAbove hLeast

theorem paced_run (origin : Bridge) (events : List Event) :
    (origin.blank.run events).store.Shelved ∧ (origin.blank.run events).store.Paced := by
  refine run_induction (P := fun b => b.store.Shelved ∧ b.store.Paced) (fun b event h => ?_)
    ⟨Store.shelved_empty, Store.paced_empty⟩ events
  have hStep := step_after b event
  exact ⟨shelved_step h.1 hStep, paced_step h.2 h.1 hStep⟩

end Bridge

end TokenBridge

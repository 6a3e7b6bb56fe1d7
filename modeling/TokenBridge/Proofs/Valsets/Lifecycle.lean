import TokenBridge.Proofs.Confirmations.Progress

/-!
# The life of signer sets

The nonce of a new signer set is read off the newest stored one, and no counter tells which nonces
were used. Executions forget the older sets from below and never the newest, so that the stored sets
stay a row without gaps and no nonce comes back.

* `Store.oldestValset`: where the row begins;
* `Store.Consecutive`: the invariant. The stored sets are those from the oldest to the newest;
* `valsetsMade`: the sets that a run makes, as the answers tell; `Renewed`, `renewed_after`: what an
  event does to the stored sets;
* `nonces_valsetsMade`, `valset?_run`, `observedValset_run`: nonces, sets and the observed nonce
  along a run;
* `valsets_run`: all of it from an empty store.
-/

namespace TokenBridge

namespace Store

variable {s s' : Store} {nonce : Nonce} {v : Valset}

/-- The nonce of the oldest signer set that is kept: the observed one, or the first of all. -/
def oldestValset (s : Store) : Nat :=
  s.observedValset.elim 1 Nonce.toNat

theorem oldestValset_of_observed (h : s.observedValset = some nonce) :
    s.oldestValset = nonce.toNat := by
  simp [oldestValset, h]

/-- The stored signer sets are those from the oldest to the newest, and the observed set is one of
them. -/
structure Consecutive (s : Store) : Prop where
  keyed : s.valsets.KeyedBy Valset.nonce
  stored : ∀ nonce, (∃ v, s.valset? nonce = some v) ↔
    s.oldestValset ≤ nonce.toNat ∧ nonce ≤ s.newestValset
  observed : ∀ nonce, s.observedValset = some nonce → ∃ v, s.valset? nonce = some v

theorem consecutive_empty : empty.Consecutive where
  keyed := Table.keyedBy_empty _
  stored nonce := by
    have hNone : ¬∃ v, empty.valset? nonce = some v := by
      rintro ⟨v, h⟩
      cases h
    refine iff_of_false hNone fun ⟨hLow, hHigh⟩ => ?_
    have hZero : nonce.toNat ≤ 0 := hHigh
    have hOne : 1 ≤ nonce.toNat := hLow
    omega
  observed nonce h := by cases h

theorem Consecutive.congr (h : s.Consecutive) (hValsets : s'.valsets = s.valsets)
    (hObserved : s'.observedValset = s.observedValset) : s'.Consecutive where
  keyed := hValsets ▸ h.keyed
  stored nonce := by
    simpa [valset?, oldestValset, hValsets, hObserved, newestValset_congr hValsets]
      using h.stored nonce
  observed nonce hSome := by
    simpa [valset?, hValsets] using h.observed nonce (hObserved ▸ hSome)

theorem Consecutive.oldestValset_le (h : s.Consecutive) :
    s.oldestValset ≤ max 1 s.newestValset.toNat := by
  cases hObserved : s.observedValset with
  | none =>
    have hFirst : s.oldestValset = 1 := by simp [oldestValset, hObserved]
    omega
  | some nonce =>
    have hRow := (h.stored nonce).mp (h.observed nonce hObserved)
    have hHigh : nonce.toNat ≤ s.newestValset.toNat := hRow.2
    rw [oldestValset_of_observed hObserved]
    omega

/-- The row is empty only if there is no newest set. -/
theorem Consecutive.newestValset_eq_zero (h : s.Consecutive) (hNone : s.valsets.values = []) :
    s.newestValset.toNat = 0 := by
  by_contra hSome
  have hLow := h.oldestValset_le
  obtain ⟨v, hStored⟩ := (h.stored s.newestValset).mpr ⟨by omega, Nat.le_refl _⟩
  have hMem : v ∈ s.valsets.values := Table.mem_values_of_find? hStored
  simp [hNone] at hMem

/-- A new set continues the row. -/
theorem Consecutive.putValset (h : s.Consecutive)
    (hNext : v.nonce.toNat = s.newestValset.toNat + 1) : (s.putValset v).Consecutive := by
  have hAbove : s.newestValset < v.nonce := Nat.lt_of_lt_of_eq (Nat.lt_succ_self _) hNext.symm
  have hOldest : (s.putValset v).oldestValset = s.oldestValset := rfl
  refine ⟨h.keyed.insert v, fun nonce => ?_, fun nonce hObserved => ?_⟩
  · rw [valset?_putValset, newestValset_putValset h.keyed hAbove, hOldest]
    by_cases hNew : nonce = v.nonce
    · have hLow := h.oldestValset_le
      simp only [if_pos hNew, Option.some.injEq, exists_eq', true_iff]
      subst hNew
      exact ⟨by omega, Nat.le_refl _⟩
    · -- any other nonce up to the new one is a nonce up to the former newest one
      rw [if_neg hNew, h.stored nonce]
      have hNe : nonce.toNat ≠ v.nonce.toNat := fun hEq => hNew (Nonce.ext_toNat hEq)
      have hUpTo : nonce ≤ s.newestValset ↔ nonce ≤ v.nonce := by
        show nonce.toNat ≤ s.newestValset.toNat ↔ nonce.toNat ≤ v.nonce.toNat
        omega
      rw [hUpTo]
  · obtain ⟨w, hStored⟩ := h.observed nonce hObserved
    rw [valset?_putValset]
    by_cases hNew : nonce = v.nonce
    · exact ⟨v, if_pos hNew⟩
    · exact ⟨w, (if_neg hNew).trans hStored⟩

/-- An execution cuts the row off below the executed set. -/
theorem Consecutive.executeValset (h : s.Consecutive) (nonce : Nonce) :
    (s.executeValset nonce).Consecutive := by
  rcases executeValset_cases h.keyed nonce with hSame | ⟨⟨v, hStored⟩, hObserved, hFind, -⟩
  · rw [hSame]
    exact h
  obtain ⟨hLow, -⟩ := (h.stored nonce).mp ⟨v, hStored⟩
  refine ⟨?_, fun m => ?_, fun m hSome => ?_⟩
  · exact executeValset_induction (P := fun s => s.valsets.KeyedBy Valset.nonce)
      (fun _ _ h => h) (fun _ older h => h.erase older) h.keyed nonce
  · rw [hFind, newestValset_executeValset h.keyed, oldestValset_of_observed hObserved]
    by_cases hOlder : m < nonce
    · have hLess : m.toNat < nonce.toNat := hOlder
      simp only [if_pos hOlder]
      refine iff_of_false (by simp) fun ⟨hFrom, _⟩ => ?_
      omega
    · have hFrom : nonce.toNat ≤ m.toNat := Nat.le_of_not_lt hOlder
      rw [if_neg hOlder, h.stored m]
      refine and_congr_left fun _ => ⟨fun _ => hFrom, fun _ => ?_⟩
      omega
  · have hSelf : ¬nonce < nonce := Nat.lt_irrefl _
    obtain rfl : nonce = m := Option.some.inj (hObserved.symm.trans hSome)
    exact ⟨v, by rw [hFind, if_neg hSelf, hStored]⟩

theorem Consecutive.observedValset_executeValset (h : s.Consecutive) {m : Nonce}
    (hSome : s.observedValset = some m) (nonce : Nonce) :
    ∃ n, (s.executeValset nonce).observedValset = some n ∧ m ≤ n := by
  rcases executeValset_cases h.keyed nonce with hSame | ⟨hStored, hObserved, -⟩
  · rw [hSame]
    exact ⟨m, hSome, Nat.le_refl _⟩
  · have hLow := ((h.stored nonce).mp hStored).1
    rw [oldestValset_of_observed hSome] at hLow
    exact ⟨nonce, hObserved, hLow⟩

end Store

namespace Bridge

variable {b b' : Bridge} {event : Event}

/-! ## Events -/

/-- The signer set that an event makes, as its answer tells. -/
def valsetMadeBy (b : Bridge) : Event → Option Valset
  | .message message =>
    match handle message b with
    | .ok (.valset made) _ => made
    | _ => none
  | .staking _ => none

/-- What an event that makes a signer set or none does to the stored ones. -/
inductive Renewed (b : Bridge) : Option Valset → Store → Prop
  | kept {s : Store} (hValsets : s.valsets = b.store.valsets)
      (hObserved : s.observedValset = b.store.observedValset) : Renewed b none s
  | executed {s : Store} {nonce : Nonce}
      (hValsets : s.valsets = (b.store.executeValset nonce).valsets)
      (hObserved : s.observedValset = (b.store.executeValset nonce).observedValset) :
      Renewed b none s
  | made {v : Valset} (hNonce : v.nonce.toNat = b.store.newestValset.toNat + 1) :
      Renewed b (some v) (b.store.putValset v)

theorem Judged.renewed {validator : ValidatorAddress} {power : UInt64} {claim : Claim}
    {outcome : ClaimOutcome} (h : Judged b validator power claim outcome b') :
    Renewed b none b'.store := by
  obtain ⟨s, attestations, claimCursors, hEffect, hStore⟩ := h.exists_effect
  rw [hStore]
  cases hEffect with
  | none => exact .kept rfl rfl
  | @batch contract nonce =>
    obtain ⟨_, _, _, hFrame⟩ := b.store.executeBatch_frame contract nonce
    rw [hFrame]
    exact .kept rfl rfl
  | valset => exact .executed rfl rfl

/-- **What an event does to signer sets.** -/
theorem renewed_after (b : Bridge) (event : Event) :
    Renewed b (b.valsetMadeBy event) (b.after event).store := by
  cases event with
  | staking change =>
    show Renewed b none (b.after (.staking change)).store
    generalize hAfter : b.after (.staking change) = b'
    cases hAfter ▸ step_after b (.staking change) with
    | staked => exact .kept rfl rfl
    | unstaked => exact .kept rfl rfl
  | message message =>
    rw [valsetMadeBy, after, left]
    cases h : handle message b with
    | error refusal b' =>
      rw [handle_eq_error h]
      exact .kept rfl rfl
    | ok reply b' =>
      cases handled_of_handle h with
      | @claimed _ _ _ _ _ m hValid hSigner hJudged =>
        show Renewed b none m.store
        exact hJudged.renewed
      | built =>
        rw [Store.takeBatch_eq]
        exact .kept rfl rfl
      | requested hSome hMake => exact .made (following_eq_ok (nonce_of_currentValset hMake))
      | updated hSome hMake => exact .made (following_eq_ok (nonce_of_currentValset hMake))
      | _ => exact .kept rfl rfl

section

variable {s : Store} {made : Option Valset}

theorem Renewed.consecutive (h : Renewed b made s) (hRow : b.store.Consecutive) :
    s.Consecutive := by
  cases h with
  | kept hValsets hObserved => exact hRow.congr hValsets hObserved
  | executed hValsets hObserved => exact (hRow.executeValset _).congr hValsets hObserved
  | made hNonce => exact hRow.putValset hNonce

/-- The newest nonce tells how many sets were made. -/
theorem Renewed.newestValset (h : Renewed b made s) (hRow : b.store.Consecutive) :
    s.newestValset.toNat = b.store.newestValset.toNat + made.toList.length := by
  cases h with
  | kept hValsets => simp [Store.newestValset_congr hValsets]
  | executed hValsets =>
    simp [Store.newestValset_congr hValsets, Store.newestValset_executeValset hRow.keyed]
  | @made v hNonce =>
    have hAbove : b.store.newestValset < v.nonce :=
      Nat.lt_of_lt_of_eq (Nat.lt_succ_self _) hNonce.symm
    simp [Store.newestValset_putValset hRow.keyed hAbove, hNonce]

theorem Renewed.nonce_eq {v : Valset} (h : Renewed b (some v) s) :
    v.nonce.toNat = b.store.newestValset.toNat + 1 := by
  cases h with
  | made hNonce => exact hNonce

theorem Renewed.valset? {nonce : Nonce} {v : Valset} (h : Renewed b made s)
    (hRow : b.store.Consecutive) (hFound : s.valset? nonce = some v) :
    b.store.valset? nonce = some v ∨ made = some v := by
  cases h with
  | kept hValsets =>
    left
    simpa [Store.valset?, hValsets] using hFound
  | @executed _ m hValsets =>
    left
    have hLeft : (b.store.executeValset m).valset? nonce = some v := by
      simpa [Store.valset?, hValsets] using hFound
    exact ((Store.thins_executeValset hRow.keyed m).valset nonce v hLeft).1
  | @made w hNonce =>
    rw [Store.valset?_putValset] at hFound
    by_cases hNew : nonce = w.nonce
    · rw [if_pos hNew] at hFound
      exact Or.inr hFound
    · rw [if_neg hNew] at hFound
      exact Or.inl hFound

theorem Renewed.observedValset {m : Nonce} (h : Renewed b made s) (hRow : b.store.Consecutive)
    (hSome : b.store.observedValset = some m) : ∃ n, s.observedValset = some n ∧ m ≤ n := by
  cases h with
  | kept _ hObserved => exact ⟨m, hObserved.trans hSome, Nat.le_refl _⟩
  | executed _ hObserved =>
    rw [hObserved]
    exact hRow.observedValset_executeValset hSome _
  | made => exact ⟨m, hSome, Nat.le_refl _⟩

end

/-! ## Runs -/

def valsetsMade (b : Bridge) : List Event → List Valset
  | [] => []
  | event :: events => (b.valsetMadeBy event).toList ++ (b.after event).valsetsMade events

theorem consecutive_run (h : b.store.Consecutive) (events : List Event) :
    (b.run events).store.Consecutive :=
  run_induction (P := fun b => b.store.Consecutive)
    (fun b event h => (renewed_after b event).consecutive h) h events

/-- The sets that are made take one nonce after the other, and the last of them is the newest. -/
theorem nonces_valsetsMade (h : b.store.Consecutive) (events : List Event) :
    (b.valsetsMade events).map (fun v => v.nonce.toNat) =
      List.range' (b.store.newestValset.toNat + 1) (b.valsetsMade events).length ∧
    (b.run events).store.newestValset.toNat =
      b.store.newestValset.toNat + (b.valsetsMade events).length := by
  induction events generalizing b with
  | nil => exact ⟨rfl, rfl⟩
  | cons event events ih =>
    have hRenewed := renewed_after b event
    have hNewest := hRenewed.newestValset h
    obtain ⟨hNonces, hLast⟩ := ih (hRenewed.consecutive h)
    have hRun : b.run (event :: events) = (b.after event).run events := rfl
    rw [valsetsMade, hRun, hLast, hNewest]
    cases hMade : b.valsetMadeBy event with
    | none =>
      rw [hMade] at hNewest
      refine ⟨?_, by simp⟩
      simpa [hNewest] using hNonces
    | some v =>
      rw [hMade] at hNewest hRenewed
      refine ⟨?_, by simp; omega⟩
      simpa [hNewest, hRenewed.nonce_eq, List.range'_succ] using hNonces

/-- A set that is stored after a run was stored before it, or was made in it above all nonces that
had been used. -/
theorem valset?_run {nonce : Nonce} {v : Valset} (h : b.store.Consecutive) (events : List Event)
    (hFound : (b.run events).store.valset? nonce = some v) :
    b.store.valset? nonce = some v ∨
      v ∈ b.valsetsMade events ∧ b.store.newestValset < nonce := by
  have hNonce : v.nonce = nonce := (consecutive_run h events).keyed _ _ hFound
  have hMade : b.store.valset? nonce = some v ∨ v ∈ b.valsetsMade events := by
    induction events generalizing b with
    | nil => exact Or.inl hFound
    | cons event events ih =>
      have hRenewed := renewed_after b event
      rw [valsetsMade, List.mem_append, Option.mem_toList]
      rcases ih (hRenewed.consecutive h) hFound with hEarlier | hLater
      · rcases hRenewed.valset? h hEarlier with hOld | hNew
        · exact Or.inl hOld
        · exact Or.inr (Or.inl hNew)
      · exact Or.inr (Or.inr hLater)
  rcases hMade with hOld | hNew
  · exact Or.inl hOld
  · have hMem := List.mem_map_of_mem (f := fun v => v.nonce.toNat) hNew
    rw [(nonces_valsetsMade h events).1, List.mem_range'_1, hNonce] at hMem
    exact Or.inr ⟨hNew, hMem.1⟩

theorem observedValset_run {m : Nonce} (h : b.store.Consecutive)
    (hSome : b.store.observedValset = some m) (events : List Event) :
    ∃ n, (b.run events).store.observedValset = some n ∧ m ≤ n := by
  refine (run_induction (P := fun b => b.store.Consecutive ∧
    ∃ n, b.store.observedValset = some n ∧ m ≤ n) (fun b event hb => ?_)
    ⟨h, m, hSome, Nat.le_refl _⟩ events).2
  obtain ⟨hRow, n, hObserved, hLow⟩ := hb
  obtain ⟨n', hObserved', hStep⟩ := (renewed_after b event).observedValset hRow hObserved
  exact ⟨(renewed_after b event).consecutive hRow, n', hObserved', Nat.le_trans hLow hStep⟩

/-! ## The lifecycle -/

/-- **The life of signer sets.** In a run from an empty store the sets that were made have the nonces
one, two and so on. The nonces of the stored sets are those from the oldest kept one, which is the
observed nonce or else one, to the number of sets made; there is no stored set only if none was
made, and what is stored was made. The observed nonce is that of a stored set and does not fall. What
is stored later under a nonce that has been used is what is stored under it now, so that a stored
set does not change and a forgotten nonce does not come back. Confirmations are of stored sets, and
the next set will have a nonce above all that have been used. -/
theorem valsets_run (origin : Bridge) (events : List Event) :
    let b := origin.blank.run events
    let made := origin.blank.valsetsMade events
    made.map (fun v => v.nonce.toNat) = List.range' 1 made.length ∧
    (∀ nonce, (∃ v, b.store.valset? nonce = some v) ↔
      b.store.oldestValset ≤ nonce.toNat ∧ nonce.toNat ≤ made.length) ∧
    (b.store.valsets.values = [] ↔ made = []) ∧
    (∀ nonce v, b.store.valset? nonce = some v → v ∈ made ∧ v.nonce = nonce) ∧
    (∀ nonce, b.store.observedValset = some nonce →
      (∃ v, b.store.valset? nonce = some v) ∧
      ∀ later, ∃ nonce', (b.run later).store.observedValset = some nonce' ∧ nonce ≤ nonce') ∧
    (∀ nonce, nonce.toNat ≤ made.length → ∀ later v,
      (b.run later).store.valset? nonce = some v → b.store.valset? nonce = some v) ∧
    (∀ nonce validator c, b.store.valsetConfirm? nonce validator = some c →
      b.store.oldestValset ≤ nonce.toNat ∧ nonce.toNat ≤ made.length) ∧
    (∀ event v, b.valsetMadeBy event = some v → ∀ w ∈ made, w.nonce < v.nonce) := by
  intro b made
  have hRow : b.store.Consecutive := consecutive_run Store.consecutive_empty events
  have hReferred : b.store.Referred := run_induction (P := fun b => b.store.Referred)
    (fun b event h => referred_step h (step_after b event)) Store.referred_empty events
  have hNonces : made.map (fun v => v.nonce.toNat) = List.range' 1 made.length :=
    (nonces_valsetsMade (b := origin.blank) Store.consecutive_empty events).1
  have hNewest : b.store.newestValset.toNat = made.length :=
    (nonces_valsetsMade (b := origin.blank) Store.consecutive_empty events).2.trans
      (Nat.zero_add _)
  have hStored : ∀ nonce, (∃ v, b.store.valset? nonce = some v) ↔
      b.store.oldestValset ≤ nonce.toNat ∧ nonce.toNat ≤ made.length := by
    intro nonce
    rw [← hNewest]
    exact hRow.stored nonce
  have hMade : ∀ nonce v, b.store.valset? nonce = some v → v ∈ made ∧ v.nonce = nonce := by
    intro nonce v hFound
    refine ⟨?_, hRow.keyed _ _ hFound⟩
    rcases valset?_run (b := origin.blank) Store.consecutive_empty events hFound with hNone | hNew
    · cases hNone
    · exact hNew.1
  refine ⟨hNonces, hStored, ⟨fun hNil => ?_, fun hNil => ?_⟩, hMade, fun nonce hObserved =>
    ⟨hRow.observed nonce hObserved, observedValset_run hRow hObserved⟩,
    fun nonce hUsed later v hFound => ?_, fun nonce validator c hConfirm => ?_,
    fun event v hEvent w hMem => ?_⟩
  · exact List.length_eq_zero_iff.mp (hNewest.symm.trans (hRow.newestValset_eq_zero hNil))
  · refine List.eq_nil_iff_forall_not_mem.mpr fun v hMem => ?_
    have hFound := (hMade v.nonce v ((Store.mem_valsets_iff hRow.keyed).mp hMem)).1
    rw [hNil] at hFound
    cases hFound
  · rcases valset?_run hRow later hFound with hOld | ⟨-, hAbove⟩
    · exact hOld
    · have hAbove : b.store.newestValset.toNat < nonce.toNat := hAbove
      omega
  · exact (hStored nonce).mp (hReferred.exists_valset hConfirm).2
  · have hNext := (hEvent ▸ renewed_after b event).nonce_eq
    have hUsed := List.mem_map_of_mem (f := fun v => v.nonce.toNat) hMem
    rw [hNonces, List.mem_range'_1] at hUsed
    show w.nonce.toNat < v.nonce.toNat
    omega

end Bridge

end TokenBridge

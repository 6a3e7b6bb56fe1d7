import Mathlib.Data.List.Nodup
import TokenBridge.Bridge.Queries
import TokenBridge.Proofs.Claims.Tallies

/-!
# Agreement at each nonce

Along a run from an empty store the nonces of a kind are settled one after the other, each by one
tally.

* `Store.Agreed`: the invariant. Tallies stand above zero and at most one above the cursor, final
  ones at most at the cursor; each nonce up to the cursor has a final tally, and no two of them;
* `agreed_step`, `agreed_run`: it is kept;
* `claimCursor_after`: a cursor moves by one, in the claims that are answered with `finalized`;
* `attestation_of_winners`: a question for a settled nonce is answered with its final tally.
-/

namespace TokenBridge

theorem Nonce.ext_toNat {n m : Nonce} (h : n.toNat = m.toNat) : n = m :=
  congrArg Nonce.mk (UInt64.toNat_inj.mp h)

theorem Bridge.following_of_toNat {n n' : Nonce} (h : n'.toNat = n.toNat + 1) :
    following n = .ok n' := by
  have hRoom : n.toNat + 1 < UInt64.size := h ▸ n'.value.toNat_lt
  have hNext : (⟨UInt64.ofNat (n.toNat + 1)⟩ : Nonce) = n' :=
    Nonce.ext_toNat ((Nat.mod_eq_of_lt hRoom).trans h.symm)
  rw [following, Nonce.next?, if_pos hRoom, hNext]

theorem Bridge.following_of_lt {n : Nonce} (h : n.toNat + 1 < UInt64.size) :
    ∃ next, following n = .ok next := by
  rw [following, Nonce.next?, if_pos h]
  exact ⟨_, rfl⟩

namespace Store

variable {s s' : Store} {key : AttestationKey} {kind : ClaimKind} {nonce : Nonce} {a : Attestation}

/-- There is a tally under a key. -/
def Holds (s : Store) (key : AttestationKey) : Prop :=
  ∃ a, s.attestations.find? key = some a

/-- There is a final tally under a key. -/
def Final (s : Store) (key : AttestationKey) : Prop :=
  ∃ a, s.attestations.find? key = some a ∧ a.finalized = true

theorem holds_insert (hTallies : s'.attestations = s.attestations.insert a.key a) :
    s'.Holds key ↔ key = a.key ∨ s.Holds key := by
  rw [Holds, hTallies, Table.find?_insert]
  by_cases hKey : key = a.key
  · rw [if_pos hKey]
    exact ⟨fun _ => Or.inl hKey, fun _ => ⟨a, rfl⟩⟩
  · rw [if_neg hKey]
    exact ⟨Or.inr, fun h => h.resolve_left hKey⟩

theorem final_insert (hTallies : s'.attestations = s.attestations.insert a.key a) :
    s'.Final key ↔ key = a.key ∧ a.finalized = true ∨ key ≠ a.key ∧ s.Final key := by
  rw [Final, hTallies, Table.find?_insert]
  by_cases hKey : key = a.key
  · rw [if_pos hKey]
    constructor
    · rintro ⟨_, h, hFinal⟩
      cases h
      exact Or.inl ⟨hKey, hFinal⟩
    · rintro (⟨_, hFinal⟩ | ⟨hNe, _⟩)
      · exact ⟨a, rfl, hFinal⟩
      · exact absurd hKey hNe
  · rw [if_neg hKey]
    constructor
    · exact fun h => Or.inr ⟨hKey, h⟩
    · rintro (⟨hEq, _⟩ | ⟨_, h⟩)
      · exact absurd hEq hKey
      · exact h

theorem claimCursor_insert (hCursors : s'.claimCursors = s.claimCursors.insert kind nonce)
    (other : ClaimKind) :
    s'.claimCursor other = if other = kind then nonce else s.claimCursor other := by
  rw [claimCursor, hCursors, Table.find?_insert]
  by_cases hKind : other = kind
  · rw [if_pos hKind, if_pos hKind, Option.getD_some]
  · rw [if_neg hKind, if_neg hKind, claimCursor]

theorem claimCursor_congr (hCursors : s'.claimCursors = s.claimCursors) (kind : ClaimKind) :
    s'.claimCursor kind = s.claimCursor kind := by
  rw [claimCursor, hCursors, claimCursor]

/-! ## The invariant -/

/-- Each nonce up to the cursor is settled by one tally, and nothing is known beyond the nonce that
follows the cursor. -/
structure Agreed (s : Store) : Prop where
  filed : s.Filed
  positive : ∀ key, s.Holds key → 0 < key.nonce.toNat
  reach : ∀ key, s.Holds key → key.nonce.toNat ≤ (s.claimCursor key.kind).toNat + 1
  below : ∀ key, s.Final key → key.nonce.toNat ≤ (s.claimCursor key.kind).toNat
  winner : ∀ kind nonce, 0 < nonce.toNat → nonce.toNat ≤ (s.claimCursor kind).toNat →
    ∃ details, s.Final ⟨kind, nonce, details⟩
  alone : ∀ kind nonce d d', s.Final ⟨kind, nonce, d⟩ → s.Final ⟨kind, nonce, d'⟩ → d = d'

theorem agreed_empty : empty.Agreed where
  filed := Table.keyedBy_empty _
  positive _ := fun ⟨_, h⟩ => by cases h
  reach _ := fun ⟨_, h⟩ => by cases h
  below _ := fun ⟨_, h, _⟩ => by cases h
  winner _ nonce hPositive hCursor := absurd hCursor (Nat.not_le.mpr hPositive)
  alone _ _ _ _ := fun ⟨_, h, _⟩ => by cases h

/-- The invariant speaks of what is held, what is final and of the cursors only. -/
theorem Agreed.congr (h : s.Agreed) (hFiled : s'.Filed)
    (hHolds : ∀ key, s'.Holds key → s.Holds key ∨
      0 < key.nonce.toNat ∧ key.nonce.toNat ≤ (s.claimCursor key.kind).toNat + 1)
    (hFinal : ∀ key, s'.Final key ↔ s.Final key)
    (hCursors : s'.claimCursors = s.claimCursors) : s'.Agreed where
  filed := hFiled
  positive key hHeld := by
    rcases hHolds key hHeld with hHeld | hNew
    · exact h.positive key hHeld
    · exact hNew.1
  reach key hHeld := by
    rw [claimCursor_congr hCursors]
    rcases hHolds key hHeld with hHeld | hNew
    · exact h.reach key hHeld
    · exact hNew.2
  below key hKey := by
    rw [claimCursor_congr hCursors]
    exact h.below key ((hFinal key).mp hKey)
  winner kind nonce hPositive hLe := by
    rw [claimCursor_congr hCursors] at hLe
    obtain ⟨details, hKey⟩ := h.winner kind nonce hPositive hLe
    exact ⟨details, (hFinal _).mpr hKey⟩
  alone kind nonce d d' hd hd' :=
    h.alone kind nonce d d' ((hFinal _).mp hd) ((hFinal _).mp hd')

theorem Agreed.settle (h : s.Agreed) (hFiled : s'.Filed)
    (hNext : a.claim.nonce.toNat = (s.claimCursor a.claim.kind).toNat + 1)
    (hHolds : ∀ key, s'.Holds key ↔ key = a.key ∨ s.Holds key)
    (hFinal : ∀ key, s'.Final key ↔ key = a.key ∨ s.Final key)
    (hCursors : s'.claimCursors = s.claimCursors.insert a.claim.kind a.claim.nonce) :
    s'.Agreed := by
  have hGrow : ∀ kind, (s.claimCursor kind).toNat ≤ (s'.claimCursor kind).toNat := by
    intro kind
    rw [claimCursor_insert hCursors]
    by_cases hKind : kind = a.claim.kind
    · rw [if_pos hKind, hKind, hNext]
      exact Nat.le_succ _
    · exact Nat.le_of_eq (congrArg Nonce.toNat (if_neg hKind).symm)
  have hAt : s'.claimCursor a.claim.kind = a.claim.nonce := by
    rw [claimCursor_insert hCursors, if_pos rfl]
  -- a final tally at the nonce being settled can only be the new one
  have hOnly : ∀ {d}, s.Final ⟨a.claim.kind, a.claim.nonce, d⟩ → False := by
    intro d hOld
    have hBelow : a.claim.nonce.toNat ≤ (s.claimCursor a.claim.kind).toNat := h.below _ hOld
    omega
  refine ⟨hFiled, fun key hHeld => ?_, fun key hHeld => ?_, fun key hKey => ?_,
    fun kind nonce hPositive hLe => ?_, fun kind nonce d d' hd hd' => ?_⟩
  · rcases (hHolds key).mp hHeld with rfl | hHeld
    · show 0 < a.claim.nonce.toNat
      omega
    · exact h.positive key hHeld
  · rcases (hHolds key).mp hHeld with rfl | hHeld
    · show a.claim.nonce.toNat ≤ (s'.claimCursor a.claim.kind).toNat + 1
      rw [hAt]
      exact Nat.le_succ _
    · exact Nat.le_trans (h.reach key hHeld) (Nat.succ_le_succ (hGrow key.kind))
  · rcases (hFinal key).mp hKey with rfl | hKey
    · show a.claim.nonce.toNat ≤ (s'.claimCursor a.claim.kind).toNat
      exact Nat.le_of_eq (congrArg Nonce.toNat hAt.symm)
    · exact Nat.le_trans (h.below key hKey) (hGrow key.kind)
  · by_cases hNew : kind = a.claim.kind ∧ nonce = a.claim.nonce
    · obtain ⟨rfl, rfl⟩ := hNew
      exact ⟨a.details, (hFinal _).mpr (Or.inl rfl)⟩
    · have hOld : nonce.toNat ≤ (s.claimCursor kind).toNat := by
        rw [claimCursor_insert hCursors] at hLe
        by_cases hKind : kind = a.claim.kind
        · have hNe : nonce.toNat ≠ a.claim.nonce.toNat := fun hEq =>
            hNew ⟨hKind, Nonce.ext_toNat hEq⟩
          rw [if_pos hKind] at hLe
          rw [hKind]
          omega
        · rwa [if_neg hKind] at hLe
      obtain ⟨details, hKey⟩ := h.winner kind nonce hPositive hOld
      exact ⟨details, (hFinal _).mpr (Or.inr hKey)⟩
  · rcases (hFinal _).mp hd with hEq | hOld
    · cases hEq
      rcases (hFinal _).mp hd' with hEq' | hOld'
      · cases hEq'
        rfl
      · exact (hOnly hOld').elim
    · rcases (hFinal _).mp hd' with hEq' | hOld'
      · cases hEq'
        exact (hOnly hOld).elim
      · exact h.alone kind nonce d d' hOld hOld'

/-! ## Winners -/

/-- The final tallies of a kind at a nonce. -/
def winners (s : Store) (kind : ClaimKind) (nonce : Nonce) : List Attestation :=
  s.attestations.values.filter fun a =>
    a.claim.kind == kind && a.claim.nonce == nonce && a.finalized

theorem mem_winners :
    a ∈ s.winners kind nonce ↔
      a ∈ s.attestations.values ∧ a.claim.kind = kind ∧ a.claim.nonce = nonce ∧
        a.finalized = true := by
  rw [winners, List.mem_filter, Bool.and_eq_true, Bool.and_eq_true, beq_iff_eq, beq_iff_eq,
    and_assoc]

theorem Agreed.final_of_mem_winners (h : s.Agreed) (hMem : a ∈ s.winners kind nonce) :
    s.attestations.find? ⟨kind, nonce, a.details⟩ = some a ∧ s.Final ⟨kind, nonce, a.details⟩ := by
  obtain ⟨hStored, rfl, rfl, hFinal⟩ := mem_winners.mp hMem
  have hFound := (Table.KeyedBy.mem_values_iff h.filed).mp hStored
  exact ⟨hFound, a, hFound, hFinal⟩

/-- A final tally is the only one at its nonce. -/
theorem Agreed.winners_eq (h : s.Agreed) (hMem : a ∈ s.winners kind nonce) :
    s.winners kind nonce = [a] := by
  have hNodup : (s.winners kind nonce).Nodup :=
    (List.Nodup.of_map Attestation.key (Table.KeyedBy.nodup h.filed)).filter _
  refine List.perm_singleton.mp ((List.perm_ext_iff_of_nodup hNodup (List.nodup_singleton a)).mpr
    fun a' => ?_)
  rw [List.mem_singleton]
  constructor
  · intro hMem'
    obtain ⟨hFound, hFinal⟩ := h.final_of_mem_winners hMem
    obtain ⟨hFound', hFinal'⟩ := h.final_of_mem_winners hMem'
    rw [h.alone kind nonce _ _ hFinal' hFinal, hFound] at hFound'
    exact (Option.some.inj hFound').symm
  · rintro rfl
    exact hMem

theorem Agreed.exists_winners (h : s.Agreed) (hPositive : 0 < nonce.toNat)
    (hLe : nonce.toNat ≤ (s.claimCursor kind).toNat) : ∃ a, s.winners kind nonce = [a] := by
  obtain ⟨details, a, hFound, hFinal⟩ := h.winner kind nonce hPositive hLe
  have hKey := h.filed _ _ hFound
  refine ⟨a, h.winners_eq (mem_winners.mpr ⟨Table.mem_values_of_find? hFound, ?_, ?_, hFinal⟩)⟩
  · exact congrArg AttestationKey.kind hKey
  · exact congrArg AttestationKey.nonce hKey

theorem Agreed.winners_eq_nil (h : s.Agreed)
    (hAbove : (s.claimCursor kind).toNat < nonce.toNat) : s.winners kind nonce = [] := by
  refine List.eq_nil_iff_forall_not_mem.mpr fun a hMem => ?_
  have hBelow := h.below _ (h.final_of_mem_winners hMem).2
  exact absurd hBelow (Nat.not_le.mpr hAbove)

/-- The final tally at a nonce stays the only one, with the same claim. -/
theorem Agreed.winners_later (h : s.Agreed) (h' : s'.Agreed) (hGrows : s.Grows s')
    (hWinner : s.winners kind nonce = [a]) :
    ∃ a', s'.winners kind nonce = [a'] ∧ a.Grows a' := by
  have hMem : a ∈ s.winners kind nonce := hWinner ▸ List.mem_singleton_self a
  obtain ⟨-, hKind, hNonce, hFinal⟩ := mem_winners.mp hMem
  obtain ⟨a', hFound', hLater⟩ := hGrows _ a (h.final_of_mem_winners hMem).1
  refine ⟨a', h'.winners_eq (mem_winners.mpr ⟨Table.mem_values_of_find? hFound', ?_, ?_, ?_⟩),
    hLater⟩
  · rw [hLater.claim_eq, hKind]
  · rw [hLater.claim_eq, hNonce]
  · exact (hLater.final hFinal).1

end Store

namespace Bridge

variable {b b' : Bridge} {event : Event} {kind : ClaimKind} {nonce : Nonce} {a : Attestation}

/-! ## Events -/

theorem finalized_tally (hFiled : b.store.Filed) (claim : Claim) :
    (b.tally claim).finalized = true ↔ b.store.Final (Attestation.start claim).key := by
  rw [tally_eq hFiled, Store.Final]
  cases b.store.attestations.find? (Attestation.start claim).key with
  | none => simp [Attestation.start]
  | some a => simp

/-- Above the cursor no tally is final. -/
theorem finalized_tally_of_above {claim : Claim} (hAgreed : b.store.Agreed)
    (hAbove : b.store.claimCursor claim.kind < claim.nonce) :
    (b.tally claim).finalized = false := by
  refine Bool.eq_false_iff.mpr fun hFinal => ?_
  have hBelow := hAgreed.below _ ((finalized_tally hAgreed.filed claim).mp hFinal)
  exact absurd hAbove (Nat.not_lt.mpr hBelow)

theorem Amended.finalized_eq_true_iff {validator : ValidatorAddress} {power : UInt64}
    {claim : Claim} (hFiled : b.store.Filed) (h : Amended b validator power claim a) :
    a.finalized = true ↔ b.store.Final a.key := by
  rw [h.finalized_eq, h.key_eq hFiled, finalized_tally hFiled]

theorem pos_of_validate {claim : Claim} (h : claim.validate = .ok ()) : 0 < claim.nonce.toNat := by
  rw [Claim.validate] at h
  by_cases hZero : claim.nonce = .zero
  · rw [if_pos hZero] at h
    cases h
  · exact Nat.pos_of_ne_zero fun hEq => hZero (Nonce.ext_toNat hEq)

theorem agreed_step (h : b.store.Agreed) (hStep : Step b event b') : b'.store.Agreed := by
  have hFiled' := filed_step h.filed hStep
  cases tallied_of_step h.filed hStep with
  | idle hTallies hCursors =>
    refine h.congr hFiled' (fun key hHeld => Or.inl ?_) (fun key => ?_) hCursors
    · rwa [Store.Holds, hTallies] at hHeld
    · rw [Store.Final, hTallies, Store.Final]
  | @amended _ claim _ _ a _ hValid _ hReach hAmended hTallies hCursors =>
    have hKey := hAmended.key_eq h.filed
    refine h.congr hFiled' (fun key hHeld => ?_) (fun key => ?_) hCursors
    · rcases (Store.holds_insert hTallies).mp hHeld with rfl | hHeld
      · rw [hKey]
        exact Or.inr ⟨pos_of_validate hValid, hReach⟩
      · exact Or.inl hHeld
    · rw [Store.final_insert hTallies, hAmended.finalized_eq_true_iff h.filed]
      constructor
      · rintro (⟨rfl, hFinal⟩ | ⟨_, hFinal⟩)
        · exact hFinal
        · exact hFinal
      · intro hFinal
        by_cases hEq : key = a.key
        · exact Or.inl ⟨hEq, hEq ▸ hFinal⟩
        · exact Or.inr ⟨hEq, hFinal⟩
  | @settled _ claim _ _ a _ _ _ hNext hAmended _ _ hTallies hCursors =>
    rw [← hAmended.kind_eq h.filed, ← hAmended.nonce_eq h.filed] at hNext hCursors
    refine Store.Agreed.settle (a := a.close) h hFiled' hNext (fun key => ?_) (fun key => ?_)
      hCursors
    · exact Store.holds_insert (a := a.close) hTallies
    · rw [Store.final_insert (a := a.close) hTallies]
      constructor
      · rintro (⟨hEq, _⟩ | ⟨_, hFinal⟩)
        · exact Or.inl hEq
        · exact Or.inr hFinal
      · rintro (hEq | hFinal)
        · exact Or.inl ⟨hEq, rfl⟩
        · by_cases hEq : key = a.close.key
          · exact Or.inl ⟨hEq, rfl⟩
          · exact Or.inr ⟨hEq, hFinal⟩

theorem agreed_run (h : b.store.Agreed) (events : List Event) : (b.run events).store.Agreed :=
  run_induction (P := fun b => b.store.Agreed)
    (fun b event h => agreed_step h (step_after b event)) h events

/-! ## Cursors -/

/-- The event is a claim of a kind that is answered with `finalized`. -/
def Finalizes (b : Bridge) (kind : ClaimKind) (event : Event) : Prop :=
  ∃ orchestrator claim b', event = .message (.claim orchestrator claim) ∧ claim.kind = kind ∧
    submitClaim orchestrator claim b = .ok .finalized b'

theorem after_claim (b : Bridge) (orchestrator : AccountAddress) (claim : Claim) :
    b.after (.message (.claim orchestrator claim)) = left (submitClaim orchestrator claim) b :=
  left_map Reply.claimed (submitClaim orchestrator claim) b

/-- The cursor of a claim's kind moves on if the claim is answered with `finalized`, and no cursor
moves otherwise. -/
theorem claimCursor_submitClaim {orchestrator : AccountAddress} {claim : Claim}
    {outcome : ClaimOutcome} (hFiled : b.store.Filed)
    (h : submitClaim orchestrator claim b = .ok outcome b') (kind : ClaimKind) :
    (outcome = .finalized ∧ kind = claim.kind ∧
      (b'.store.claimCursor kind).toNat = (b.store.claimCursor kind).toNat + 1) ∨
    ((outcome = .finalized → kind ≠ claim.kind) ∧
      b'.store.claimCursor kind = b.store.claimCursor kind) := by
  obtain ⟨m, hJudge, rfl⟩ := submitClaim_eq_ok h
  obtain ⟨validator, power, -, -, hJudged⟩ := judge_eq_ok hJudge
  rcases hJudged.claims_cases with ⟨hOther, rfl⟩ | ⟨hOther, a, -, hStore, -, -⟩ |
    ⟨hFinal, hNext, a, n, hAmended, -, -, hEnacted, rfl⟩
  · exact Or.inr ⟨fun hFinal => absurd hFinal hOther, rfl⟩
  · refine Or.inr ⟨fun hFinal => absurd hFinal hOther, ?_⟩
    show m.store.claimCursor kind = _
    rw [hStore, Store.putAttestation, Store.claimCursor, Store.claimCursor]
  · have hCursors := (hEnacted.tables_settle (a := a)).2
    rw [hAmended.kind_eq hFiled, hAmended.nonce_eq hFiled] at hCursors
    have hCursor := Store.claimCursor_insert hCursors kind
    by_cases hSame : kind = claim.kind
    · rw [if_pos hSame] at hCursor
      refine Or.inl ⟨hFinal, hSame, ?_⟩
      show ((n.settle a).store.claimCursor kind).toNat = _
      rw [hCursor, following_eq_ok hNext, hSame]
    · rw [if_neg hSame] at hCursor
      exact Or.inr ⟨fun _ => hSame, hCursor⟩

/-- A cursor moves by one, in the claims of its kind that are answered with `finalized`, and in no
other event. -/
theorem claimCursor_after (hFiled : b.store.Filed) (kind : ClaimKind) (event : Event) :
    (Finalizes b kind event ∧
      ((b.after event).store.claimCursor kind).toNat = (b.store.claimCursor kind).toNat + 1) ∨
    (¬Finalizes b kind event ∧
      (b.after event).store.claimCursor kind = b.store.claimCursor kind) := by
  by_cases hClaim : ∃ orchestrator claim, event = .message (.claim orchestrator claim)
  · obtain ⟨orchestrator, claim, rfl⟩ := hClaim
    rw [after_claim, left]
    cases hSubmit : submitClaim orchestrator claim b with
    | ok outcome b' =>
      rcases claimCursor_submitClaim hFiled hSubmit kind with ⟨rfl, rfl, hMoved⟩ | ⟨hOther, hStays⟩
      · exact Or.inl ⟨⟨orchestrator, claim, b', rfl, rfl, hSubmit⟩, hMoved⟩
      · refine Or.inr ⟨?_, hStays⟩
        rintro ⟨_, _, _, hEvent, hKind, hFinal⟩
        cases hEvent
        rw [hSubmit] at hFinal
        cases hFinal
        exact hOther rfl hKind.symm
    | error refusal b' =>
      rw [submitClaim_eq_error hSubmit]
      refine Or.inr ⟨?_, rfl⟩
      rintro ⟨_, _, _, hEvent, -, hFinal⟩
      cases hEvent
      rw [hSubmit] at hFinal
      cases hFinal
  · refine Or.inr ⟨?_, ?_⟩
    · rintro ⟨orchestrator, claim, _, hEvent, -, -⟩
      exact hClaim ⟨orchestrator, claim, hEvent⟩
    · rcases (step_after b event).claims_cases with ⟨-, hCursors⟩ |
        ⟨orchestrator, claim, _, _, _, _, hEvent, -⟩
      · exact Store.claimCursor_congr hCursors kind
      · exact absurd ⟨orchestrator, claim, hEvent⟩ hClaim

/-! ## Questions -/

theorem attestation_of_winners (hFiled : b.store.Filed)
    (hWinner : b.store.winners kind nonce = [a]) : b.attestation kind nonce = some a := by
  have hIff : ∀ a', a' ∈ b.store.attestationsAt kind nonce ∧ a'.finalized = true ↔ a' = a := by
    intro a'
    rw [hFiled.mem_attestationsAt, and_assoc, and_assoc, ← Store.mem_winners, hWinner,
      List.mem_singleton]
  rw [attestation]
  cases hFound : (b.store.attestationsAt kind nonce).find? Attestation.finalized with
  | some a' =>
    have hEq := (hIff a').mp ⟨List.mem_of_find?_eq_some hFound, List.find?_some hFound⟩
    rw [hEq]
    rfl
  | none =>
    obtain ⟨hMem, hFinal⟩ := (hIff a).mpr rfl
    exact absurd hFinal (List.find?_eq_none.mp hFound a hMem)

/-- **Agreement.** In a run from an empty store exactly one final tally stands at each nonce from
one to the cursor, none above it, and no tally at zero or beyond the following nonce. A cursor moves
by one, in the claims of its kind that are answered with `finalized`. A final tally stays the only
one at its nonce, keeps its claim and fingerprint, and answers every later question for the
nonce. -/
theorem agreement_run (origin : Bridge) (events : List Event) (kind : ClaimKind) :
    let b := origin.blank.run events
    let cursor := b.store.claimCursor kind
    (∀ nonce, 0 < nonce.toNat → nonce ≤ cursor → ∃ a, b.store.winners kind nonce = [a]) ∧
    (∀ nonce, cursor < nonce → b.store.winners kind nonce = []) ∧
    (∀ a ∈ b.store.attestations.values, a.claim.kind = kind →
      0 < a.claim.nonce.toNat ∧ a.claim.nonce.toNat ≤ cursor.toNat + 1) ∧
    (∀ event,
      (Finalizes b kind event ∧
        ((b.after event).store.claimCursor kind).toNat = cursor.toNat + 1) ∨
      (¬Finalizes b kind event ∧ (b.after event).store.claimCursor kind = cursor)) ∧
    (∀ nonce a, b.store.winners kind nonce = [a] → ∀ later, ∃ a',
      (b.run later).store.winners kind nonce = [a'] ∧ a'.claim = a.claim ∧
      a'.details = a.details ∧ (b.run later).attestation kind nonce = some a') := by
  intro b cursor
  have hAgreed : b.store.Agreed := agreed_run Store.agreed_empty events
  refine ⟨fun nonce => hAgreed.exists_winners, fun nonce => hAgreed.winners_eq_nil,
    fun a hMem hKind => ?_, claimCursor_after hAgreed.filed kind, fun nonce a hWinner later => ?_⟩
  · have hHeld : b.store.Holds a.key := ⟨a, (Table.KeyedBy.mem_values_iff hAgreed.filed).mp hMem⟩
    have hReach := hAgreed.reach _ hHeld
    rw [show a.key.kind = kind from hKind] at hReach
    exact ⟨hAgreed.positive _ hHeld, hReach⟩
  · have hAgreed' := agreed_run hAgreed later
    obtain ⟨a', hWinner', hLater⟩ :=
      hAgreed.winners_later hAgreed' (grows_run hAgreed.filed later) hWinner
    exact ⟨a', hWinner', hLater.claim_eq, hLater.details_eq,
      attestation_of_winners hAgreed'.filed hWinner'⟩

end Bridge

end TokenBridge

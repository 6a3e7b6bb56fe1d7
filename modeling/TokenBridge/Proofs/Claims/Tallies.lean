import TokenBridge.Proofs.Bridge.Steps
import TokenBridge.Proofs.Store.Execution
import TokenBridge.Proofs.Table.Values

/-!
# How tallies change

A claim amends the tally of its fingerprint and no other. The tally keeps its claim, its votes and
audit entries are only added to at the end, and once it is final its votes stay (`Grows`).

* `tally_eq`: the tally of a claim is what is stored under its key, or an empty one;
* `Judged.claims_cases`: a judged claim leaves the bridge alone, stores an amended tally, or settles
  the nonce with one;
* `tallied_of_step`: no other event touches tallies and cursors;
* `grows_run`: along a run every stored tally stays and grows.
-/

namespace TokenBridge

/-! ## Growth -/

namespace Attestation

/-- A later form of a tally. -/
structure Grows (a a' : Attestation) : Prop where
  claim_eq : a'.claim = a.claim
  details_eq : a'.details = a.details
  votes : a.votes <+: a'.votes
  audit : a.audit <+: a'.audit
  final : a.finalized = true → a'.finalized = true ∧ a'.votes = a.votes

variable {a a' a'' : Attestation}

theorem Grows.refl (a : Attestation) : a.Grows a :=
  ⟨rfl, rfl, List.prefix_rfl, List.prefix_rfl, fun h => ⟨h, rfl⟩⟩

theorem Grows.trans (h : a.Grows a') (h' : a'.Grows a'') : a.Grows a'' where
  claim_eq := h'.claim_eq.trans h.claim_eq
  details_eq := h'.details_eq.trans h.details_eq
  votes := h.votes.trans h'.votes
  audit := h.audit.trans h'.audit
  final hFinal := by
    obtain ⟨hFinal', hVotes⟩ := h.final hFinal
    obtain ⟨hFinal'', hVotes'⟩ := h'.final hFinal'
    exact ⟨hFinal'', hVotes'.trans hVotes⟩

theorem Grows.key_eq (h : a.Grows a') : a'.key = a.key := by
  rw [key, key, h.claim_eq, h.details_eq]

theorem grows_cast (hOpen : a.finalized = false) (validator : ValidatorAddress) (power : UInt64) :
    a.Grows (a.cast validator power) where
  claim_eq := rfl
  details_eq := rfl
  votes := List.prefix_append _ _
  audit := List.prefix_rfl
  final hFinal := by
    rw [hOpen] at hFinal
    cases hFinal

theorem grows_close (hOpen : a.finalized = false) : a.Grows a.close where
  claim_eq := rfl
  details_eq := rfl
  votes := List.prefix_rfl
  audit := List.prefix_rfl
  final hFinal := by
    rw [hOpen] at hFinal
    cases hFinal

theorem key_close (a : Attestation) : a.close.key = a.key :=
  rfl

theorem grows_recordAudit (a : Attestation) (validator : ValidatorAddress) :
    a.Grows (a.recordAudit validator) := by
  rw [recordAudit]
  by_cases hKnown : a.isRecorded validator = true
  · rw [if_pos hKnown]
    exact .refl a
  · rw [if_neg hKnown]
    exact ⟨rfl, rfl, List.prefix_rfl, List.prefix_append _ _, fun h => ⟨h, rfl⟩⟩

@[simp] theorem finalized_recordAudit (a : Attestation) (validator : ValidatorAddress) :
    (a.recordAudit validator).finalized = a.finalized := by
  rw [recordAudit]
  by_cases hKnown : a.isRecorded validator = true
  · rw [if_pos hKnown]
  · rw [if_neg hKnown]

@[simp] theorem votes_recordAudit (a : Attestation) (validator : ValidatorAddress) :
    (a.recordAudit validator).votes = a.votes := by
  rw [recordAudit]
  by_cases hKnown : a.isRecorded validator = true
  · rw [if_pos hKnown]
  · rw [if_neg hKnown]

end Attestation

/-! ## Stored tallies -/

namespace Store

variable {s : Store} {kind : ClaimKind} {nonce : Nonce} {a : Attestation}

theorem mem_attestationsAt :
    a ∈ s.attestationsAt kind nonce ↔
      ∃ details, s.attestations.find? ⟨kind, nonce, details⟩ = some a := by
  rw [attestationsAt, Table.mem_values_iff]
  constructor
  · rintro ⟨⟨k, n, details⟩, h⟩
    rw [Table.find?_filter, Option.filter_eq_some_iff] at h
    obtain ⟨hFound, hKeep⟩ := h
    rw [Bool.and_eq_true, beq_iff_eq, beq_iff_eq] at hKeep
    obtain ⟨rfl, rfl⟩ := hKeep
    exact ⟨details, hFound⟩
  · rintro ⟨details, hFound⟩
    refine ⟨⟨kind, nonce, details⟩, ?_⟩
    rw [Table.find?_filter, hFound]
    simp

/-- Each tally is stored under its own key. -/
abbrev Filed (s : Store) : Prop :=
  s.attestations.KeyedBy Attestation.key

theorem Filed.mem_attestationsAt (h : s.Filed) :
    a ∈ s.attestationsAt kind nonce ↔
      a ∈ s.attestations.values ∧ a.claim.kind = kind ∧ a.claim.nonce = nonce := by
  rw [Store.mem_attestationsAt, Table.KeyedBy.mem_values_iff h]
  constructor
  · rintro ⟨details, hFound⟩
    have hKey := h _ _ hFound
    rw [hKey]
    exact ⟨hFound, congrArg AttestationKey.kind hKey, congrArg AttestationKey.nonce hKey⟩
  · rintro ⟨hFound, rfl, rfl⟩
    exact ⟨a.details, hFound⟩

/-- Every stored tally is still there, in a later form. -/
def Grows (s s' : Store) : Prop :=
  ∀ key a, s.attestations.find? key = some a →
    ∃ a', s'.attestations.find? key = some a' ∧ a.Grows a'

theorem Grows.refl (s : Store) : s.Grows s :=
  fun _ a h => ⟨a, h, .refl a⟩

theorem Grows.trans {s s' s'' : Store} (h : s.Grows s') (h' : s'.Grows s'') : s.Grows s'' := by
  intro key a hFound
  obtain ⟨a', hFound', hGrows⟩ := h key a hFound
  obtain ⟨a'', hFound'', hGrows'⟩ := h' key a' hFound'
  exact ⟨a'', hFound'', hGrows.trans hGrows'⟩

theorem grows_of_insert {s' : Store}
    (hNew : ∀ old, s.attestations.find? a.key = some old → old.Grows a)
    (h : s'.attestations = s.attestations.insert a.key a) : s.Grows s' := by
  intro key old hFound
  rw [h]
  by_cases hKey : key = a.key
  · subst hKey
    exact ⟨a, by rw [Table.find?_insert, if_pos rfl], hNew old hFound⟩
  · exact ⟨old, by rw [Table.find?_insert, if_neg hKey, hFound], .refl old⟩

end Store

namespace Bridge

variable {b b' : Bridge} {validator : ValidatorAddress} {power : UInt64} {claim : Claim}
  {outcome : ClaimOutcome} {event : Event}

/-- The tally of a claim is the one stored under its key, or an empty one. -/
theorem tally_eq (hFiled : b.store.Filed) (claim : Claim) :
    b.tally claim =
      (b.store.attestations.find? (Attestation.start claim).key).getD (.start claim) := by
  rw [tally, tallyOf, tallies]
  cases hFound : (b.store.attestationsAt claim.kind claim.nonce).find?
      (fun a => a.details == claim.fingerprint) with
  | some a =>
    have hDetails := List.find?_some hFound
    rw [beq_iff_eq] at hDetails
    obtain ⟨details, hStored⟩ := Store.mem_attestationsAt.mp (List.mem_of_find?_eq_some hFound)
    have hKey := congrArg AttestationKey.details (hFiled _ _ hStored)
    change a.details = details at hKey
    rw [← hKey, hDetails] at hStored
    have hStart : b.store.attestations.find? (Attestation.start claim).key = some a := hStored
    rw [hStart, Option.getD_some]
  | none =>
    cases hStored : b.store.attestations.find? (Attestation.start claim).key with
    | none => rfl
    | some a =>
      have hMem := Store.mem_attestationsAt.mpr ⟨claim.fingerprint, hStored⟩
      have hDetails := congrArg AttestationKey.details (hFiled _ _ hStored)
      exact absurd (beq_iff_eq.mpr hDetails) (List.find?_eq_none.mp hFound a hMem)

theorem key_tally (hFiled : b.store.Filed) (claim : Claim) :
    (b.tally claim).key = (Attestation.start claim).key := by
  rw [tally_eq hFiled]
  cases hStored : b.store.attestations.find? (Attestation.start claim).key with
  | none => rfl
  | some a => exact hFiled _ _ hStored

/-- What a claim makes of its tally. -/
inductive Amended (b : Bridge) (validator : ValidatorAddress) (power : UInt64) (claim : Claim) :
    Attestation → Prop
  | kept : Amended b validator power claim (b.tally claim)
  | voted (hNew : b.priorVote? claim validator = none)
      (hFresh : (b.tally claim).hasVoted validator = false)
      (hOpen : (b.tally claim).finalized = false) :
      Amended b validator power claim ((b.tally claim).cast validator power)
  | audited (hUnknown : (b.tally claim).isRecorded validator = false) :
      Amended b validator power claim ((b.tally claim).recordAudit validator)

theorem Amended.grows {a : Attestation} (h : Amended b validator power claim a) :
    (b.tally claim).Grows a := by
  cases h with
  | kept => exact .refl _
  | voted hNew hFresh hOpen => exact Attestation.grows_cast hOpen validator power
  | audited hUnknown => exact Attestation.grows_recordAudit _ validator

theorem Amended.finalized_eq {a : Attestation} (h : Amended b validator power claim a) :
    a.finalized = (b.tally claim).finalized := by
  cases h with
  | kept => rfl
  | voted hNew hFresh hOpen => rfl
  | audited hUnknown => exact Attestation.finalized_recordAudit _ validator

/-! ## Claims -/

theorem following_eq_ok {n m : Nonce} (h : following n = .ok m) : m.toNat = n.toNat + 1 := by
  rw [following, Nonce.next?] at h
  by_cases hRoom : n.toNat + 1 < UInt64.size
  · rw [if_pos hRoom] at h
    cases h
    exact Nat.mod_eq_of_lt hRoom
  · rw [if_neg hRoom] at h
    cases h

theorem Judged.nonce_le (h : Judged b validator power claim outcome b') :
    claim.nonce.toNat ≤ (b.store.claimCursor claim.kind).toNat + 1 := by
  cases h with
  | accepted hNext => exact Nat.le_of_eq (following_eq_ok hNext)
  | finalized hNext => exact Nat.le_of_eq (following_eq_ok hNext)
  | resumed hNext => exact Nat.le_of_eq (following_eq_ok hNext)
  | repeated hNext => exact Nat.le_of_eq (following_eq_ok hNext)
  | contradicted hNext => exact Nat.le_of_eq (following_eq_ok hNext)
  | lateRepeated hLate => exact Nat.le_succ_of_le hLate
  | lateContradicted hLate => exact Nat.le_succ_of_le hLate
  | late hLate => exact Nat.le_succ_of_le hLate

/-- A judged claim changes nothing stored, or stores its amended tally, or makes that tally final,
has its effect and moves the cursor on. -/
theorem Judged.claims_cases (h : Judged b validator power claim outcome b') :
    (outcome ≠ .finalized ∧ b' = b) ∨
    (outcome ≠ .finalized ∧ ∃ a, Amended b validator power claim a ∧
      b'.store = b.store.putAttestation a ∧ b'.ledger = b.ledger ∧ b'.registry = b.registry) ∨
    (outcome = .finalized ∧ following (b.store.claimCursor claim.kind) = .ok claim.nonce ∧
      ∃ a m, Amended b validator power claim a ∧ a.finalized = false ∧ b.carries a = true ∧
        Enacted b a.claim m ∧ b' = m.settle a) := by
  cases h with
  | accepted hNext hNew hFresh hOpen hShort =>
    exact Or.inr (Or.inl ⟨by decide, _, .voted hNew hFresh hOpen, rfl, rfl, rfl⟩)
  | finalized hNext hNew hFresh hOpen hMet hEnacted =>
    exact Or.inr (Or.inr ⟨rfl, hNext, _, _, .voted hNew hFresh hOpen, hOpen, hMet, hEnacted, rfl⟩)
  | resumed hNext hPrior hSame hOpen hMet hEnacted =>
    exact Or.inr (Or.inr ⟨rfl, hNext, _, _, .kept, hOpen, hMet, hEnacted, rfl⟩)
  | repeated => exact Or.inl ⟨by decide, rfl⟩
  | contradicted hNext hPrior hOther hUnknown =>
    exact Or.inr (Or.inl ⟨by decide, _, .audited hUnknown, rfl, rfl, rfl⟩)
  | lateRepeated => exact Or.inl ⟨by decide, rfl⟩
  | lateContradicted hLate hSettled hUnknown hRival =>
    exact Or.inr (Or.inl ⟨by decide, _, .audited hUnknown, rfl, rfl, rfl⟩)
  | late hLate hSettled hUnknown hAlone =>
    refine Or.inr (Or.inl ⟨?_, _, .audited hUnknown, rfl, rfl, rfl⟩)
    by_cases hFinal : (b.tally claim).finalized = true
    · rw [if_pos hFinal]
      decide
    · rw [if_neg hFinal]
      decide

/-- A claim that is answered with `finalized` makes its amended tally final. -/
theorem amended_of_finalized {orchestrator : AccountAddress}
    (h : submitClaim orchestrator claim b = .ok .finalized b') :
    claim.validate = .ok () ∧ ∃ validator power a m, Amended b validator power claim a ∧
      b.carries a = true ∧ Enacted b a.claim m ∧
      b' = { m.settle a with counters := (m.settle a).counters.bump (.submitted .finalized) } := by
  obtain ⟨m, hJudge, rfl⟩ := submitClaim_eq_ok h
  obtain ⟨validator, power, hValid, -, hJudged⟩ := judge_eq_ok hJudge
  rcases hJudged.claims_cases with ⟨hOther, -⟩ | ⟨hOther, -⟩ |
    ⟨-, -, a, m, hAmended, -, hMet, hEnacted, rfl⟩
  · exact absurd rfl hOther
  · exact absurd rfl hOther
  · exact ⟨hValid, validator, power, a, m, hAmended, hMet, hEnacted, rfl⟩

/-! ## Events -/

theorem Enacted.attestations_eq (h : Enacted b claim b') :
    b'.store.attestations = b.store.attestations := by
  cases h with
  | credited hMint => rfl
  | @batch nonce batchNonce contract =>
    obtain ⟨_, _, _, hFrame⟩ := b.store.executeBatch_frame contract batchNonce
    rw [hFrame]
  | @valset nonce valsetNonce =>
    obtain ⟨_, _, _, hFrame⟩ := b.store.executeValset_frame valsetNonce
    rw [hFrame]

theorem Enacted.claimCursors_eq (h : Enacted b claim b') :
    b'.store.claimCursors = b.store.claimCursors := by
  cases h with
  | credited hMint => rfl
  | @batch nonce batchNonce contract =>
    obtain ⟨_, _, _, hFrame⟩ := b.store.executeBatch_frame contract batchNonce
    rw [hFrame]
  | @valset nonce valsetNonce =>
    obtain ⟨_, _, _, hFrame⟩ := b.store.executeValset_frame valsetNonce
    rw [hFrame]

/-- The tables once a claim has had its effect and its nonce is settled. -/
theorem Enacted.tables_settle {a : Attestation} (h : Enacted b claim b') :
    (b'.settle a).store.attestations = b.store.attestations.insert a.key a.close ∧
      (b'.settle a).store.claimCursors =
        b.store.claimCursors.insert a.claim.kind a.claim.nonce := by
  constructor
  · show b'.store.attestations.insert a.key a.close = _
    rw [h.attestations_eq]
  · show b'.store.claimCursors.insert a.claim.kind a.claim.nonce = _
    rw [h.claimCursors_eq]

/-- Tallies and cursors are touched by judged claims only. -/
theorem Step.claims_cases (h : Step b event b') :
    (b'.store.attestations = b.store.attestations ∧
      b'.store.claimCursors = b.store.claimCursors) ∨
    ∃ orchestrator claim validator power outcome m,
      event = .message (.claim orchestrator claim) ∧ claim.validate = .ok () ∧
      b.signer orchestrator = .ok (validator, power) ∧ Judged b validator power claim outcome m ∧
      b' = { m with counters := m.counters.bump (.submitted outcome) } := by
  cases h with
  | handled h =>
    cases h with
    | claimed hValid hSigner hJudged =>
      exact Or.inr ⟨_, _, _, _, _, _, rfl, hValid, hSigner, hJudged, rfl⟩
    | built =>
      rw [Store.takeBatch_eq]
      exact Or.inl ⟨rfl, rfl⟩
    | _ => exact Or.inl ⟨rfl, rfl⟩
  | _ => exact Or.inl ⟨rfl, rfl⟩

/-- What an event does to tallies and cursors. -/
inductive Tallied (b : Bridge) (event : Event) (b' : Bridge) : Prop
  | idle (hTallies : b'.store.attestations = b.store.attestations)
      (hCursors : b'.store.claimCursors = b.store.claimCursors)
  | amended {orchestrator : AccountAddress} {claim : Claim} {validator : ValidatorAddress}
      {power : UInt64} {a : Attestation}
      (hEvent : event = .message (.claim orchestrator claim))
      (hValid : claim.validate = .ok ())
      (hSigner : b.signer orchestrator = .ok (validator, power))
      (hReach : claim.nonce.toNat ≤ (b.store.claimCursor claim.kind).toNat + 1)
      (hAmended : Amended b validator power claim a)
      (hTallies : b'.store.attestations = b.store.attestations.insert a.key a)
      (hCursors : b'.store.claimCursors = b.store.claimCursors)
  | settled {orchestrator : AccountAddress} {claim : Claim} {validator : ValidatorAddress}
      {power : UInt64} {a : Attestation}
      (hEvent : event = .message (.claim orchestrator claim))
      (hValid : claim.validate = .ok ())
      (hSigner : b.signer orchestrator = .ok (validator, power))
      (hNext : claim.nonce.toNat = (b.store.claimCursor claim.kind).toNat + 1)
      (hAmended : Amended b validator power claim a)
      (hOpen : a.finalized = false)
      (hMet : b.carries a = true)
      (hTallies : b'.store.attestations = b.store.attestations.insert a.key a.close)
      (hCursors : b'.store.claimCursors = b.store.claimCursors.insert claim.kind claim.nonce)

theorem Amended.key_eq {a : Attestation} (hFiled : b.store.Filed)
    (h : Amended b validator power claim a) : a.key = (Attestation.start claim).key :=
  h.grows.key_eq.trans (key_tally hFiled claim)

theorem Amended.kind_eq {a : Attestation} (hFiled : b.store.Filed)
    (h : Amended b validator power claim a) : a.claim.kind = claim.kind :=
  congrArg AttestationKey.kind (h.key_eq hFiled)

theorem Amended.nonce_eq {a : Attestation} (hFiled : b.store.Filed)
    (h : Amended b validator power claim a) : a.claim.nonce = claim.nonce :=
  congrArg AttestationKey.nonce (h.key_eq hFiled)

/-- **What an event does to tallies and cursors.** -/
theorem tallied_of_step (hFiled : b.store.Filed) (h : Step b event b') : Tallied b event b' := by
  rcases h.claims_cases with ⟨hTallies, hCursors⟩ |
    ⟨orchestrator, claim, validator, power, outcome, m, hEvent, hValid, hSigner, hJudged, rfl⟩
  · exact .idle hTallies hCursors
  rcases hJudged.claims_cases with ⟨-, rfl⟩ | ⟨-, a, hAmended, hStore, -, -⟩ |
    ⟨-, hNext, a, n, hAmended, hOpen, hMet, hEnacted, rfl⟩
  · exact .idle rfl rfl
  · refine .amended hEvent hValid hSigner hJudged.nonce_le hAmended ?_ ?_
    · show m.store.attestations = _
      rw [hStore, Store.putAttestation]
    · show m.store.claimCursors = _
      rw [hStore, Store.putAttestation]
  · obtain ⟨hTallies, hCursors⟩ := hEnacted.tables_settle (a := a)
    rw [hAmended.kind_eq hFiled, hAmended.nonce_eq hFiled] at hCursors
    exact .settled hEvent hValid hSigner (following_eq_ok hNext) hAmended hOpen hMet hTallies
      hCursors

/-- What a claim makes of a tally is a later form of what was stored. -/
theorem Amended.grows_stored {a old : Attestation} (hFiled : b.store.Filed)
    (h : Amended b validator power claim a) (hFound : b.store.attestations.find? a.key = some old) :
    old.Grows a := by
  have hTally := tally_eq hFiled claim
  rw [← h.key_eq hFiled, hFound, Option.getD_some] at hTally
  exact hTally ▸ h.grows

theorem filed_step (hFiled : b.store.Filed) (h : Step b event b') : b'.store.Filed := by
  cases tallied_of_step hFiled h with
  | idle hTallies =>
    rw [Store.Filed, hTallies]
    exact hFiled
  | amended _ _ _ _ _ hTallies =>
    rw [Store.Filed, hTallies]
    exact Table.KeyedBy.insert hFiled _
  | @settled _ _ _ _ a _ _ _ _ _ _ _ hTallies =>
    rw [Store.Filed, hTallies]
    exact Table.KeyedBy.insert hFiled a.close

theorem grows_step (hFiled : b.store.Filed) (h : Step b event b') : b.store.Grows b'.store := by
  cases tallied_of_step hFiled h with
  | idle hTallies =>
    intro key a hFound
    exact ⟨a, hTallies ▸ hFound, .refl a⟩
  | amended _ _ _ _ hAmended hTallies =>
    exact Store.grows_of_insert (fun old hFound => hAmended.grows_stored hFiled hFound) hTallies
  | @settled _ _ _ _ a _ _ _ _ hAmended hOpen _ hTallies =>
    refine Store.grows_of_insert (a := a.close) (fun old hFound => ?_) hTallies
    exact (hAmended.grows_stored hFiled hFound).trans (Attestation.grows_close hOpen)

theorem filed_run (hFiled : b.store.Filed) (events : List Event) : (b.run events).store.Filed :=
  run_induction (P := fun b => b.store.Filed)
    (fun b event hFiled => filed_step hFiled (step_after b event)) hFiled events

theorem grows_run (hFiled : b.store.Filed) (events : List Event) :
    b.store.Grows (b.run events).store := by
  induction events generalizing b with
  | nil => exact .refl _
  | cons event events ih =>
    have hStep := step_after b event
    exact (grows_step hFiled hStep).trans (ih (filed_step hFiled hStep))

theorem filed_blank (origin : Bridge) : origin.blank.store.Filed :=
  Table.keyedBy_empty _

end Bridge

end TokenBridge

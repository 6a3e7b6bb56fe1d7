import Mathlib.Data.List.Nodup
import TokenBridge.Proofs.Claims.Agreement

/-!
# Votes

A validator's power is counted once at each nonce of a kind, whatever it claims and however often.

* `votesAt`: the votes under a key, none if there is no tally;
* `Polled`, `polled_of_step`: an event adds no vote, or one vote of a validator that has none at the
  nonce yet, with the power that it has now;
* `Store.OneVote`: the invariant, kept by `oneVote_step` and `oneVote_run`;
* `carries_of_final`: a tally becomes final only with more than the fraction of what is bonded.
-/

namespace TokenBridge

namespace Attestation

variable {a : Attestation} {validator : ValidatorAddress}

theorem hasVoted_iff : a.hasVoted validator = true ↔ validator ∈ a.votes.map Vote.validator := by
  rw [hasVoted, List.any_eq_true, List.mem_map]
  constructor
  · rintro ⟨vote, hMem, hVoter⟩
    exact ⟨vote, hMem, beq_iff_eq.mp hVoter⟩
  · rintro ⟨vote, hMem, hVoter⟩
    exact ⟨vote, hMem, beq_iff_eq.mpr hVoter⟩

end Attestation

namespace Store

variable {s s' : Store} {key : AttestationKey} {kind : ClaimKind} {nonce : Nonce} {a : Attestation}
  {vote : Vote}

/-! ## Votes under a key -/

def votesAt (s : Store) (key : AttestationKey) : List Vote :=
  ((s.attestations.find? key).map Attestation.votes).getD []

def votersAt (s : Store) (key : AttestationKey) : List ValidatorAddress :=
  (s.votesAt key).map Vote.validator

theorem votesAt_of_find? (h : s.attestations.find? key = some a) : s.votesAt key = a.votes := by
  rw [votesAt, h, Option.map_some, Option.getD_some]

theorem votesAt_congr (hTallies : s'.attestations = s.attestations) (key : AttestationKey) :
    s'.votesAt key = s.votesAt key := by
  rw [votesAt, hTallies, votesAt]

theorem votesAt_insert (hTallies : s'.attestations = s.attestations.insert a.key a)
    (key : AttestationKey) : s'.votesAt key = if key = a.key then a.votes else s.votesAt key := by
  rw [votesAt, hTallies, Table.find?_insert]
  by_cases hKey : key = a.key
  · rw [if_pos hKey, if_pos hKey, Option.map_some, Option.getD_some]
  · rw [if_neg hKey, if_neg hKey, votesAt]

/-! ## The invariant -/

/-- Each validator has one vote at each nonce of a kind. -/
structure OneVote (s : Store) : Prop where
  once : ∀ key, (s.votersAt key).Nodup
  apart : ∀ kind nonce d d' validator, validator ∈ s.votersAt ⟨kind, nonce, d⟩ →
    validator ∈ s.votersAt ⟨kind, nonce, d'⟩ → d = d'

theorem oneVote_empty : empty.OneVote where
  once _ := List.nodup_nil
  apart _ _ _ _ _ h := absurd h List.not_mem_nil

theorem OneVote.congr (h : s.OneVote) (hVotes : ∀ key, s'.votesAt key = s.votesAt key) :
    s'.OneVote := by
  have hVoters : ∀ key, s'.votersAt key = s.votersAt key := fun key => by
    rw [votersAt, hVotes, votersAt]
  refine ⟨fun key => hVoters key ▸ h.once key, fun kind nonce d d' validator hMem hMem' => ?_⟩
  rw [hVoters] at hMem hMem'
  exact h.apart kind nonce d d' validator hMem hMem'

/-- The first vote of a validator at a nonce keeps the invariant. -/
theorem OneVote.cast (h : s.OneVote)
    (hNew : ∀ details, vote.validator ∉ s.votersAt ⟨key.kind, key.nonce, details⟩)
    (hVotes : ∀ k, s'.votesAt k = if k = key then s.votesAt key ++ [vote] else s.votesAt k) :
    s'.OneVote := by
  have hVoters : ∀ k, s'.votersAt k =
      if k = key then s.votersAt key ++ [vote.validator] else s.votersAt k := by
    intro k
    rw [votersAt, hVotes]
    by_cases hKey : k = key
    · rw [if_pos hKey, if_pos hKey, List.map_append, votersAt, List.map_singleton]
    · rw [if_neg hKey, if_neg hKey, votersAt]
  have hMem : ∀ {k validator}, validator ∈ s'.votersAt k →
      k = key ∧ validator = vote.validator ∨ validator ∈ s.votersAt k := by
    intro k validator hVoter
    rw [hVoters] at hVoter
    by_cases hKey : k = key
    · rw [if_pos hKey, List.mem_append, List.mem_singleton] at hVoter
      rcases hVoter with hOld | hVoter
      · exact Or.inr (hKey ▸ hOld)
      · exact Or.inl ⟨hKey, hVoter⟩
    · rw [if_neg hKey] at hVoter
      exact Or.inr hVoter
  refine ⟨fun k => ?_, fun kind nonce d d' validator hd hd' => ?_⟩
  · rw [hVoters]
    by_cases hKey : k = key
    · rw [if_pos hKey]
      refine List.nodup_append.mpr ⟨h.once key, List.nodup_singleton _, ?_⟩
      rintro old hOld _ hVoter rfl
      rw [List.mem_singleton] at hVoter
      exact hNew key.details (hVoter ▸ hOld)
    · rw [if_neg hKey]
      exact h.once k
  · rcases hMem hd with ⟨hKey, rfl⟩ | hOld
    · subst hKey
      rcases hMem hd' with ⟨hKey', -⟩ | hOld'
      · exact (congrArg AttestationKey.details hKey').symm
      · exact absurd hOld' (hNew d')
    · rcases hMem hd' with ⟨hKey', rfl⟩ | hOld'
      · subst hKey'
        exact absurd hOld (hNew d)
      · exact h.apart kind nonce d d' validator hOld hOld'

theorem Filed.nodup_attestationsAt (h : s.Filed) (kind : ClaimKind) (nonce : Nonce) :
    (s.attestationsAt kind nonce).Nodup :=
  List.Nodup.of_map Attestation.key (Table.KeyedBy.filter h _).nodup

/-- All votes at a nonce, under whatever fingerprint, are of different validators. -/
theorem OneVote.nodup_voters (h : s.OneVote) (hFiled : s.Filed) (kind : ClaimKind) (nonce : Nonce) :
    (((s.attestationsAt kind nonce).flatMap Attestation.votes).map Vote.validator).Nodup := by
  have hVoters : ∀ {a}, a ∈ s.attestationsAt kind nonce →
      a.votes.map Vote.validator = s.votersAt ⟨kind, nonce, a.details⟩ ∧
        s.attestations.find? ⟨kind, nonce, a.details⟩ = some a := by
    intro a hMem
    obtain ⟨hStored, rfl, rfl⟩ := hFiled.mem_attestationsAt.mp hMem
    have hFound := (Table.KeyedBy.mem_values_iff hFiled).mp hStored
    exact ⟨congrArg (List.map Vote.validator) (votesAt_of_find? hFound).symm, hFound⟩
  rw [List.map_flatMap, List.nodup_flatMap]
  refine ⟨fun a hMem => ?_, ?_⟩
  · rw [(hVoters hMem).1]
    exact h.once _
  · refine (hFiled.nodup_attestationsAt kind nonce).pairwise_of_forall_ne
      fun a hMem a' hMem' hNe validator hVoter hVoter' => hNe ?_
    obtain ⟨hEq, hFound⟩ := hVoters hMem
    obtain ⟨hEq', hFound'⟩ := hVoters hMem'
    change validator ∈ a.votes.map Vote.validator at hVoter
    change validator ∈ a'.votes.map Vote.validator at hVoter'
    rw [hEq] at hVoter
    rw [hEq'] at hVoter'
    rw [h.apart kind nonce _ _ validator hVoter hVoter', hFound'] at hFound
    exact (Option.some.inj hFound).symm

end Store

namespace Bridge

variable {b b' : Bridge} {event : Event} {validator : ValidatorAddress} {power : UInt64}
  {claim : Claim} {a : Attestation}

/-! ## Events -/

theorem votes_tally (hFiled : b.store.Filed) (claim : Claim) :
    (b.tally claim).votes = b.store.votesAt (Attestation.start claim).key := by
  rw [tally_eq hFiled, Store.votesAt]
  cases b.store.attestations.find? (Attestation.start claim).key with
  | none => rfl
  | some a => rfl

theorem not_mem_votersAt (hNew : b.priorVote? claim validator = none) (details : Digest) :
    validator ∉ b.store.votersAt ⟨claim.kind, claim.nonce, details⟩ := by
  rw [Store.votersAt, Store.votesAt]
  cases hFound : b.store.attestations.find? ⟨claim.kind, claim.nonce, details⟩ with
  | none => exact List.not_mem_nil
  | some a =>
    intro hVoter
    have hMem : a ∈ b.tallies claim := Store.mem_attestationsAt.mpr ⟨details, hFound⟩
    exact List.find?_eq_none.mp hNew a hMem (Attestation.hasVoted_iff.mpr hVoter)

theorem signer_eq_ok {orchestrator : AccountAddress} :
    b.signer orchestrator = .ok (validator, power) ↔
      b.registry.resolve orchestrator = some validator ∧ b.registry.isBonded validator = true ∧
        power = b.registry.powerOf validator ∧ power ≠ 0 := by
  rw [signer]
  cases hResolve : b.registry.resolve orchestrator with
  | none =>
    constructor
    · intro h
      cases h
    · rintro ⟨h, -⟩
      cases h
  | some found =>
    rw [Option.some.injEq]
    by_cases hBonded : b.registry.isBonded found = true
    · by_cases hPower : b.registry.powerOf found = 0
      · simp only [hBonded, Bool.not_true, Bool.false_eq_true, if_false, if_pos hPower]
        constructor
        · intro h
          cases h
        · rintro ⟨rfl, -, rfl, hPositive⟩
          exact absurd hPower hPositive
      · simp only [hBonded, Bool.not_true, Bool.false_eq_true, if_false, if_neg hPower]
        constructor
        · intro h
          cases h
          exact ⟨rfl, hBonded, rfl, hPower⟩
        · rintro ⟨rfl, -, rfl, -⟩
          rfl
    · simp only [Bool.eq_false_iff.mpr hBonded, Bool.not_false, if_true]
      constructor
      · intro h
        cases h
      · rintro ⟨rfl, h, -⟩
        exact absurd h hBonded

theorem power_of_signer {orchestrator : AccountAddress}
    (h : b.signer orchestrator = .ok (validator, power)) :
    power = b.registry.powerOf validator ∧ power ≠ 0 :=
  (signer_eq_ok.mp h).2.2

/-- What an event does to votes. -/
inductive Polled (b b' : Bridge) : Prop
  | idle (hVotes : ∀ key, b'.store.votesAt key = b.store.votesAt key)
  | polled {key : AttestationKey} {vote : Vote}
      (hPower : vote.power = b.registry.powerOf vote.validator)
      (hPositive : vote.power ≠ 0)
      (hNew : ∀ details, vote.validator ∉ b.store.votersAt ⟨key.kind, key.nonce, details⟩)
      (hVotes : ∀ k, b'.store.votesAt k =
        if k = key then b.store.votesAt key ++ [vote] else b.store.votesAt k)

theorem Amended.polled {orchestrator : AccountAddress} {stored : Attestation}
    (hFiled : b.store.Filed) (hSigner : b.signer orchestrator = .ok (validator, power))
    (h : Amended b validator power claim a) (hKey : stored.key = a.key)
    (hVotes : stored.votes = a.votes)
    (hTallies : b'.store.attestations = b.store.attestations.insert stored.key stored) :
    Polled b b' := by
  have hInsert := Store.votesAt_insert hTallies
  rw [hKey, hVotes, h.key_eq hFiled] at hInsert
  have hTally := votes_tally hFiled claim
  -- the tally keeps its votes unless one is cast
  have hIdle : a.votes = (b.tally claim).votes → Polled b b' := by
    refine fun hSame => .idle fun key => ?_
    rw [hInsert key]
    by_cases hEq : key = (Attestation.start claim).key
    · rw [if_pos hEq, hSame, hTally, hEq]
    · rw [if_neg hEq]
  cases h with
  | kept => exact hIdle rfl
  | voted hNew hFresh hOpen =>
    obtain ⟨hPower, hPositive⟩ := power_of_signer hSigner
    refine @Polled.polled _ _ (Attestation.start claim).key ⟨validator, power⟩ hPower hPositive
      (not_mem_votersAt hNew) fun k => ?_
    rw [hInsert k, Attestation.cast, hTally]
  | audited hUnknown => exact hIdle (Attestation.votes_recordAudit _ validator)

/-- **What an event does to votes.** -/
theorem polled_of_step (hFiled : b.store.Filed) (h : Step b event b') : Polled b b' := by
  cases tallied_of_step hFiled h with
  | idle hTallies => exact .idle (Store.votesAt_congr hTallies)
  | amended _ _ hSigner _ hAmended hTallies => exact hAmended.polled hFiled hSigner rfl rfl hTallies
  | @settled _ _ _ _ a _ _ hSigner _ hAmended _ _ hTallies =>
    exact hAmended.polled hFiled hSigner (Attestation.key_close a) rfl hTallies

theorem oneVote_step (hFiled : b.store.Filed) (h : b.store.OneVote) (hStep : Step b event b') :
    b'.store.OneVote := by
  cases polled_of_step hFiled hStep with
  | idle hVotes => exact h.congr hVotes
  | polled _ _ hNew hVotes => exact h.cast hNew hVotes

theorem oneVote_run (hFiled : b.store.Filed) (h : b.store.OneVote) (events : List Event) :
    (b.run events).store.OneVote := by
  refine (run_induction (P := fun b => b.store.Filed ∧ b.store.OneVote) (fun b event h => ?_)
    ⟨hFiled, h⟩ events).2
  have hStep := step_after b event
  exact ⟨filed_step h.1 hStep, oneVote_step h.1 h.2 hStep⟩

/-- New votes stand at the end, each with the power that its validator has now. -/
theorem exists_new_votes (hFiled : b.store.Filed) (hStep : Step b event b')
    (key : AttestationKey) :
    ∃ new, b'.store.votesAt key = b.store.votesAt key ++ new ∧
      ∀ vote ∈ new, vote.power = b.registry.powerOf vote.validator ∧ vote.power ≠ 0 := by
  cases polled_of_step hFiled hStep with
  | idle hVotes =>
    exact ⟨[], by rw [hVotes, List.append_nil], fun _ h => absurd h List.not_mem_nil⟩
  | @polled key' vote hPower hPositive _ hVotes =>
    by_cases hKey : key = key'
    · refine ⟨[vote], by rw [hVotes, if_pos hKey, hKey], fun other hOther => ?_⟩
      rw [List.mem_singleton.mp hOther]
      exact ⟨hPower, hPositive⟩
    · exact ⟨[], by rw [hVotes, if_neg hKey, List.append_nil], fun _ h => absurd h List.not_mem_nil⟩

/-- A tally that an event makes final exceeds the fraction of what is bonded then. -/
theorem carries_of_final {key : AttestationKey} (hFiled : b.store.Filed) (hStep : Step b event b')
    (hFound : b'.store.attestations.find? key = some a) (hFinal : a.finalized = true)
    (hOpen : ¬b.store.Final key) : b.carries a = true := by
  cases tallied_of_step hFiled hStep with
  | idle hTallies =>
    rw [hTallies] at hFound
    exact absurd ⟨a, hFound, hFinal⟩ hOpen
  | @amended _ claim _ _ stored _ _ _ _ hAmended hTallies =>
    have hKey := (Store.final_insert hTallies).mp ⟨a, hFound, hFinal⟩
    rw [hAmended.finalized_eq_true_iff hFiled] at hKey
    rcases hKey with ⟨rfl, hOld⟩ | ⟨_, hOld⟩
    · exact absurd hOld hOpen
    · exact absurd hOld hOpen
  | @settled _ claim _ _ stored _ _ _ _ _ _ hMet hTallies =>
    have hKey := (Store.final_insert (a := stored.close) hTallies).mp ⟨a, hFound, hFinal⟩
    rcases hKey with ⟨hEq, _⟩ | ⟨_, hOld⟩
    · change key = stored.key at hEq
      rw [hTallies, Table.find?_insert, if_pos hEq] at hFound
      cases hFound
      exact hMet
    · exact absurd hOld hOpen

theorem exceeds_of_carries (h : b.carries a = true) :
    b.registry.totalPower.toNat * b.params.threshold.numerator.toNat <
      a.power * b.params.threshold.denominator.toNat := by
  rw [carries, Threshold.isMet, Bool.and_eq_true, decide_eq_true_iff, decide_eq_true_iff] at h
  exact h.2

/-- **Votes.** In a run from an empty store all votes at a nonce of a kind, under whatever
fingerprint, are of different validators. Every event keeps each tally with its claim, its votes and
its audit entries in their order, and the votes of a final one for good; it adds votes with the
power that their validators have now; and what it makes final exceeds the fraction of the power
that is bonded now. -/
theorem votes_run (origin : Bridge) (events : List Event) :
    let b := origin.blank.run events
    (∀ kind nonce,
      (((b.store.attestationsAt kind nonce).flatMap Attestation.votes).map
        Vote.validator).Nodup) ∧
    ∀ event,
      (∀ key a, b.store.attestations.find? key = some a →
        ∃ a', (b.after event).store.attestations.find? key = some a' ∧ a.Grows a') ∧
      (∀ key a', (b.after event).store.attestations.find? key = some a' →
        ∃ new, a'.votes = b.store.votesAt key ++ new ∧
          ∀ vote ∈ new, vote.power = b.registry.powerOf vote.validator ∧ 0 < vote.power) ∧
      (∀ key a', (b.after event).store.attestations.find? key = some a' → a'.finalized = true →
        (∀ a, b.store.attestations.find? key = some a → a.finalized = false) →
        b.registry.totalPower.toNat * b.params.threshold.numerator.toNat <
          a'.power * b.params.threshold.denominator.toNat) := by
  intro b
  have hFiled : b.store.Filed := filed_run (filed_blank origin) events
  have hOnce : b.store.OneVote := oneVote_run (filed_blank origin) Store.oneVote_empty events
  refine ⟨hOnce.nodup_voters hFiled, fun event => ?_⟩
  have hStep := step_after b event
  refine ⟨grows_step hFiled hStep, fun key a' hFound => ?_, fun key a' hFound hFinal hOpen => ?_⟩
  · obtain ⟨new, hVotes, hPowers⟩ := exists_new_votes hFiled hStep key
    rw [Store.votesAt_of_find? hFound] at hVotes
    refine ⟨new, hVotes, fun vote hMem => ⟨(hPowers vote hMem).1, ?_⟩⟩
    exact UInt64.pos_iff_ne_zero.mpr (hPowers vote hMem).2
  · refine exceeds_of_carries (carries_of_final hFiled hStep hFound hFinal ?_)
    rintro ⟨a, hOld, hOldFinal⟩
    rw [hOpen a hOld] at hOldFinal
    cases hOldFinal

end Bridge

end TokenBridge

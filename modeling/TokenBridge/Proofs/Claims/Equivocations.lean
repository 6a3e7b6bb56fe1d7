import TokenBridge.Proofs.Claims.Votes

/-!
# Equivocations

A claim that is not refused puts its validator on record under its fingerprint, as a voter or for
audit. The first fingerprint of a validator at a nonce is no fault. Every further one is reported,
once, together with an earlier one.

* `Store.Records`: a validator is on record under a key;
* `Judged.records_iff`, `Judged.noted`: what a claim records, and what it reports;
* `Store.Grounded`: above the cursor a validator on record has a vote, so that looking for votes
  alone misses no earlier fingerprint there;
* `Store.Accounted`: the records of a validator at a nonce are one more than the reports about it;
* `testimony`, `records_run`: what is on record was claimed and not refused.
-/

namespace TokenBridge

/-! ## Reports -/

namespace SlashingSignal

/-- The two fingerprints of a report about a validator at a nonce of a kind. -/
def contradiction? (validator : ValidatorAddress) (kind : ClaimKind) (nonce : Nonce) :
    SlashingSignal → Option (Digest × Digest)
  | .equivocation v k n first second =>
    if v = validator ∧ k = kind ∧ n = nonce then some (first, second) else none
  | .missedConfirmation .. => none

end SlashingSignal

/-- The fingerprints of the reports about a validator at a nonce of a kind, in their order. -/
def contradictions (signals : List SlashingSignal) (validator : ValidatorAddress)
    (kind : ClaimKind) (nonce : Nonce) : List (Digest × Digest) :=
  signals.filterMap (SlashingSignal.contradiction? validator kind nonce)

theorem contradictions_append (signals new : List SlashingSignal) (validator : ValidatorAddress)
    (kind : ClaimKind) (nonce : Nonce) :
    contradictions (signals ++ new) validator kind nonce =
      contradictions signals validator kind nonce ++ contradictions new validator kind nonce :=
  List.filterMap_append

/-! ## Records -/

namespace Attestation

variable {a : Attestation} {validator other : ValidatorAddress} {power : UInt64}

theorem isRecorded_iff :
    a.isRecorded validator = true ↔ a.hasVoted validator = true ∨ validator ∈ a.audit := by
  rw [isRecorded, Bool.or_eq_true, List.contains_iff_mem]

theorem isRecorded_cast :
    (a.cast validator power).isRecorded other = true ↔
      other = validator ∨ a.isRecorded other = true := by
  rw [isRecorded_iff, isRecorded_iff, hasVoted_iff, hasVoted_iff, cast, List.map_append,
    List.mem_append, List.map_singleton, List.mem_singleton]
  exact ⟨by rintro ((h | h) | h) <;> simp [h], by rintro (h | h | h) <;> simp [h]⟩

theorem isRecorded_recordAudit :
    (a.recordAudit validator).isRecorded other = true ↔
      other = validator ∨ a.isRecorded other = true := by
  rw [recordAudit]
  by_cases hKnown : a.isRecorded validator = true
  · rw [if_pos hKnown]
    refine ⟨Or.inr, ?_⟩
    rintro (rfl | h)
    · exact hKnown
    · exact h
  · rw [if_neg hKnown, isRecorded_iff, isRecorded_iff, List.mem_append, List.mem_singleton]
    show a.hasVoted other = true ∨ _ ↔ _
    rw [or_comm (a := other = validator), or_assoc]

end Attestation

namespace Store

variable {s s' : Store} {validator : ValidatorAddress} {key : AttestationKey} {kind : ClaimKind}
  {nonce : Nonce} {a : Attestation}

/-- A validator is on record under a key, with a vote or for audit. -/
def Records (s : Store) (validator : ValidatorAddress) (key : AttestationKey) : Prop :=
  ∃ a, s.attestations.find? key = some a ∧ a.isRecorded validator = true

theorem records_congr (hTallies : s'.attestations = s.attestations) :
    s'.Records validator key ↔ s.Records validator key := by
  rw [Records, hTallies, Records]

theorem records_insert (hTallies : s'.attestations = s.attestations.insert a.key a) :
    s'.Records validator key ↔
      if key = a.key then a.isRecorded validator = true else s.Records validator key := by
  rw [Records, hTallies, Table.find?_insert]
  by_cases hKey : key = a.key
  · rw [if_pos hKey, if_pos hKey]
    exact ⟨fun ⟨_, hFound, h⟩ => Option.some.inj hFound ▸ h, fun h => ⟨a, rfl, h⟩⟩
  · rw [if_neg hKey, if_neg hKey, Records]

theorem records_of_mem_votersAt (h : validator ∈ s.votersAt key) : s.Records validator key := by
  rw [votersAt, votesAt] at h
  cases hFound : s.attestations.find? key with
  | none =>
    rw [hFound] at h
    exact absurd h List.not_mem_nil
  | some a =>
    rw [hFound] at h
    exact ⟨a, hFound, Attestation.isRecorded_iff.mpr (Or.inl (Attestation.hasVoted_iff.mpr h))⟩

/-- The tallies at a nonce on which a validator is on record. -/
def recordsOf (s : Store) (validator : ValidatorAddress) (kind : ClaimKind) (nonce : Nonce) :
    List Attestation :=
  (s.attestationsAt kind nonce).filter fun a => a.isRecorded validator

theorem mem_details_recordsOf (hFiled : s.Filed) {details : Digest} :
    details ∈ (s.recordsOf validator kind nonce).map Attestation.details ↔
      s.Records validator ⟨kind, nonce, details⟩ := by
  simp only [List.mem_map, recordsOf, List.mem_filter, mem_attestationsAt]
  constructor
  · rintro ⟨a, ⟨⟨d, hFound⟩, hRecorded⟩, rfl⟩
    have hDetails : a.details = d := congrArg AttestationKey.details (hFiled _ _ hFound)
    exact ⟨a, hDetails ▸ hFound, hRecorded⟩
  · rintro ⟨a, hFound, hRecorded⟩
    exact ⟨a, ⟨⟨details, hFound⟩, hRecorded⟩,
      congrArg AttestationKey.details (hFiled _ _ hFound)⟩

/-- The tallies at a nonce are told apart by their fingerprints. -/
theorem Filed.nodup_details (h : s.Filed) (kind : ClaimKind) (nonce : Nonce) :
    ((s.attestationsAt kind nonce).map Attestation.details).Nodup := by
  refine (h.nodup_attestationsAt kind nonce).map_on fun a hMem a' hMem' hDetails => ?_
  obtain ⟨hStored, hKind, hNonce⟩ := h.mem_attestationsAt.mp hMem
  obtain ⟨hStored', hKind', hNonce'⟩ := h.mem_attestationsAt.mp hMem'
  have hKey : a.key = a'.key := by
    rw [Attestation.key, Attestation.key, hKind, hNonce, hDetails, hKind', hNonce']
  have hFound := (Table.KeyedBy.mem_values_iff h).mp hStored
  rw [hKey, (Table.KeyedBy.mem_values_iff h).mp hStored'] at hFound
  exact (Option.some.inj hFound).symm

/-! ## The invariants -/

/-- Above the cursor a validator on record has a vote at the nonce, if under another fingerprint. -/
def Grounded (s : Store) : Prop :=
  ∀ validator key, s.Records validator key →
    (s.claimCursor key.kind).toNat < key.nonce.toNat →
    ∃ details, validator ∈ s.votersAt ⟨key.kind, key.nonce, details⟩

/-- The fingerprints on record for a validator at a nonce are an opening one and those that were
reported second, each once, and what was reported first is on record too. -/
structure Accounted (s : Store) (validator : ValidatorAddress) (kind : ClaimKind) (nonce : Nonce)
    (opening : Option Digest) (reports : List (Digest × Digest)) : Prop where
  records : ∀ details, s.Records validator ⟨kind, nonce, details⟩ ↔
    details ∈ opening.toList ++ reports.map Prod.snd
  once : (opening.toList ++ reports.map Prod.snd).Nodup
  opened : opening = none → reports = []
  firsts : ∀ report ∈ reports, report.1 ≠ report.2 ∧ s.Records validator ⟨kind, nonce, report.1⟩

variable {opening : Option Digest} {reports : List (Digest × Digest)}

theorem accounted_empty (validator : ValidatorAddress) (kind : ClaimKind) (nonce : Nonce) :
    empty.Accounted validator kind nonce none [] where
  records _ := by
    constructor
    · rintro ⟨_, h, _⟩
      cases h
    · exact fun h => absurd h List.not_mem_nil
  once := List.nodup_nil
  opened _ := rfl
  firsts _ h := absurd h List.not_mem_nil

theorem Accounted.congr (h : s.Accounted validator kind nonce opening reports)
    (hRecords : ∀ details, s'.Records validator ⟨kind, nonce, details⟩ ↔
      s.Records validator ⟨kind, nonce, details⟩) :
    s'.Accounted validator kind nonce opening reports where
  records details := (hRecords details).trans (h.records details)
  once := h.once
  opened := h.opened
  firsts report hMem := ⟨(h.firsts report hMem).1, (hRecords _).mpr (h.firsts report hMem).2⟩

/-- The first record of a validator at a nonce needs no report. -/
theorem Accounted.open (h : s.Accounted validator kind nonce opening reports) {details : Digest}
    (hNone : ∀ d, ¬s.Records validator ⟨kind, nonce, d⟩)
    (hRecords : ∀ d, s'.Records validator ⟨kind, nonce, d⟩ ↔
      d = details ∨ s.Records validator ⟨kind, nonce, d⟩) :
    s'.Accounted validator kind nonce (some details) reports := by
  have hNil : opening.toList ++ reports.map Prod.snd = [] :=
    List.eq_nil_iff_forall_not_mem.mpr fun d hMem => hNone d ((h.records d).mpr hMem)
  have hReports : reports = [] := List.map_eq_nil_iff.mp (List.append_eq_nil_iff.mp hNil).2
  subst hReports
  refine ⟨fun d => ?_, List.nodup_singleton details, nofun,
    fun _ hMem => absurd hMem List.not_mem_nil⟩
  rw [hRecords, List.map_nil, List.append_nil, Option.toList_some, List.mem_singleton]
  exact or_iff_left (hNone d)

/-- Every further record of a validator at a nonce is reported. -/
theorem Accounted.report (h : s.Accounted validator kind nonce opening reports)
    {first details : Digest} (hNew : ¬s.Records validator ⟨kind, nonce, details⟩)
    (hFirst : s.Records validator ⟨kind, nonce, first⟩)
    (hRecords : ∀ d, s'.Records validator ⟨kind, nonce, d⟩ ↔
      d = details ∨ s.Records validator ⟨kind, nonce, d⟩) :
    s'.Accounted validator kind nonce opening (reports ++ [(first, details)]) := by
  have hSplit : opening.toList ++ (reports ++ [(first, details)]).map Prod.snd =
      (opening.toList ++ reports.map Prod.snd) ++ [details] := by
    rw [List.map_append, List.append_assoc, List.map_singleton]
  refine ⟨fun d => ?_, ?_, fun hOpening => ?_, fun report hMem => ?_⟩
  · rw [hSplit, List.mem_append, ← h.records, List.mem_singleton, hRecords, or_comm]
  · rw [hSplit, List.nodup_append]
    refine ⟨h.once, List.nodup_singleton _, fun d hMem d' hMem' hEq => hNew ?_⟩
    rw [← List.mem_singleton.mp hMem', ← hEq]
    exact (h.records d).mpr hMem
  · -- without an opening fingerprint there was no first one to report
    have hMem := (h.records first).mp hFirst
    rw [hOpening, h.opened hOpening] at hMem
    exact absurd hMem List.not_mem_nil
  · rcases List.mem_append.mp hMem with hOld | hLast
    · exact ⟨(h.firsts report hOld).1, (hRecords _).mpr (Or.inr (h.firsts report hOld).2)⟩
    · rw [List.mem_singleton.mp hLast]
      refine ⟨fun hEq => hNew ?_, (hRecords _).mpr (Or.inr hFirst)⟩
      change first = details at hEq
      exact hEq ▸ hFirst

/-- There is one report less than there are records. -/
theorem Accounted.length_eq (h : s.Accounted validator kind nonce opening reports)
    (hFiled : s.Filed) : reports.length = (s.recordsOf validator kind nonce).length - 1 := by
  have hNodup : ((s.recordsOf validator kind nonce).map Attestation.details).Nodup :=
    (hFiled.nodup_details kind nonce).sublist (List.filter_sublist.map _)
  have hPerm := (List.perm_ext_iff_of_nodup hNodup h.once).mpr fun d =>
    (mem_details_recordsOf hFiled).trans (h.records d)
  have hLength := hPerm.length_eq
  rw [List.length_map, List.length_append, List.length_map] at hLength
  rw [hLength]
  cases hOpening : opening with
  | none =>
    rw [h.opened hOpening]
    rfl
  | some details => exact (Nat.add_sub_cancel_left 1 _).symm

end Store

namespace Bridge

variable {b b' : Bridge} {event : Event} {validator other : ValidatorAddress} {power : UInt64}
  {claim : Claim} {outcome : ClaimOutcome} {a : Attestation} {key : AttestationKey}

/-! ## Claims -/

theorem find?_of_mem_tallies (hFiled : b.store.Filed) (h : a ∈ b.tallies claim) :
    b.store.attestations.find? ⟨claim.kind, claim.nonce, a.details⟩ = some a := by
  obtain ⟨details, hFound⟩ := Store.mem_attestationsAt.mp h
  have hDetails : a.details = details := congrArg AttestationKey.details (hFiled _ _ hFound)
  rw [hDetails, hFound]

theorem isRecorded_tally (hFiled : b.store.Filed) :
    (b.tally claim).isRecorded validator = true ↔
      b.store.Records validator (Attestation.start claim).key := by
  rw [tally_eq hFiled, Store.Records]
  cases hStored : b.store.attestations.find? (Attestation.start claim).key with
  | none =>
    constructor
    · intro h
      cases h
    · rintro ⟨_, hFound, _⟩
      cases hFound
  | some old =>
    exact ⟨fun h => ⟨old, rfl, h⟩, fun ⟨_, hFound, h⟩ => Option.some.inj hFound ▸ h⟩

theorem Amended.isRecorded_iff (hFiled : b.store.Filed) (h : Amended b validator power claim a)
    (hKnown : a.isRecorded validator = true) :
    a.isRecorded other = true ↔
      other = validator ∨ b.store.Records other (Attestation.start claim).key := by
  rw [← isRecorded_tally hFiled]
  cases h with
  | kept =>
    refine ⟨Or.inr, ?_⟩
    rintro (rfl | h)
    · exact hKnown
    · exact h
  | voted => exact Attestation.isRecorded_cast
  | audited => exact Attestation.isRecorded_recordAudit

theorem mem_votersAt_of_priorVote? (hFiled : b.store.Filed)
    (h : b.priorVote? claim validator = some a) :
    validator ∈ b.store.votersAt ⟨claim.kind, claim.nonce, a.details⟩ := by
  have hFound := find?_of_mem_tallies hFiled (List.mem_of_find?_eq_some h)
  have hVoted : a.hasVoted validator = true :=
    List.find?_some (p := fun a : Attestation => a.hasVoted validator) h
  rw [Store.votersAt, Store.votesAt_of_find? hFound]
  exact Attestation.hasVoted_iff.mp hVoted

/-- A validator that repeats itself is on record already. -/
theorem isRecorded_of_same (hFiled : b.store.Filed) (hPrior : b.priorVote? claim validator = some a)
    (hSame : a.details = claim.fingerprint ∨ (b.tally claim).isRecorded validator = true) :
    (b.tally claim).isRecorded validator = true := by
  rcases hSame with hDetails | hKnown
  · have hVoted := mem_votersAt_of_priorVote? hFiled hPrior
    rw [hDetails] at hVoted
    exact (isRecorded_tally hFiled).mpr (Store.records_of_mem_votersAt hVoted)
  · exact hKnown

theorem not_records_of_tallies (h : ∀ a ∈ b.tallies claim, a.isRecorded validator = false)
    (details : Digest) : ¬b.store.Records validator ⟨claim.kind, claim.nonce, details⟩ := by
  rintro ⟨a, hFound, hRecorded⟩
  rw [h a (Store.mem_attestationsAt.mpr ⟨details, hFound⟩)] at hRecorded
  cases hRecorded

/-- Storing what a claim makes of its tally adds the record of its validator. -/
theorem Amended.records_iff (hFiled : b.store.Filed) (stored : Attestation)
    (h : Amended b validator power claim a) (hKnown : a.isRecorded validator = true)
    (hKey : stored.key = a.key) (hSame : ∀ v, stored.isRecorded v = a.isRecorded v)
    (hTallies : b'.store.attestations = b.store.attestations.insert stored.key stored) :
    b'.store.Records other key ↔
      other = validator ∧ key = (Attestation.start claim).key ∨ b.store.Records other key := by
  rw [Store.records_insert hTallies, hKey, h.key_eq hFiled, hSame]
  by_cases hEq : key = (Attestation.start claim).key
  · rw [if_pos hEq, h.isRecorded_iff hFiled hKnown, hEq, and_iff_left rfl]
  · rw [if_neg hEq]
    exact ⟨Or.inr, fun hRecords => hRecords.resolve_left fun hBoth => hEq hBoth.2⟩

/-- A claim that is not refused puts its validator on record under its key, and no other one. -/
theorem Judged.records_iff (hFiled : b.store.Filed)
    (h : Judged b validator power claim outcome b') :
    b'.store.Records other key ↔
      other = validator ∧ key = (Attestation.start claim).key ∨ b.store.Records other key := by
  have hRepeated (hKnown : (b.tally claim).isRecorded validator = true) :
      b.store.Records other key ↔
        other = validator ∧ key = (Attestation.start claim).key ∨ b.store.Records other key := by
    refine ⟨Or.inr, ?_⟩
    rintro (⟨rfl, rfl⟩ | hRecords)
    · exact (isRecorded_tally hFiled).mp hKnown
    · exact hRecords
  have hCast : ((b.tally claim).cast validator power).isRecorded validator = true :=
    Attestation.isRecorded_cast.mpr (Or.inl rfl)
  have hAudited (hUnknown : (b.tally claim).isRecorded validator = false)
      (hTallies : b'.store.attestations = b.store.attestations.insert
        ((b.tally claim).recordAudit validator).key ((b.tally claim).recordAudit validator)) :
      b'.store.Records other key ↔
        other = validator ∧ key = (Attestation.start claim).key ∨ b.store.Records other key :=
    (Amended.audited hUnknown : Amended b validator power claim _).records_iff hFiled _
      (Attestation.isRecorded_recordAudit.mpr (Or.inl rfl)) rfl (fun _ => rfl) hTallies
  cases h with
  | accepted hNext hNew hFresh hOpen hShort =>
    exact (Amended.voted hNew hFresh hOpen).records_iff hFiled _ hCast rfl (fun _ => rfl) rfl
  | finalized hNext hNew hFresh hOpen hMet hEnacted =>
    exact (Amended.voted hNew hFresh hOpen).records_iff hFiled
      ((b.tally claim).cast validator power).close hCast rfl (fun _ => rfl)
      hEnacted.tables_settle.1
  | resumed hNext hPrior hSame hOpen hMet hEnacted =>
    exact (Amended.kept : Amended b validator power claim _).records_iff hFiled
      (b.tally claim).close (isRecorded_of_same hFiled hPrior hSame) rfl (fun _ => rfl)
      hEnacted.tables_settle.1
  | repeated hNext hPrior hSame => exact hRepeated (isRecorded_of_same hFiled hPrior hSame)
  | contradicted hNext hPrior hOther hUnknown => exact hAudited hUnknown rfl
  | lateRepeated hLate hSettled hKnown => exact hRepeated hKnown
  | lateContradicted hLate hSettled hUnknown hRival => exact hAudited hUnknown rfl
  | late hLate hSettled hUnknown hAlone => exact hAudited hUnknown rfl

/-- What a claim reports: nothing if its validator is on record under its fingerprint, or at no
fingerprint of the nonce, and else the fingerprint together with an earlier one. -/
inductive Noted (b : Bridge) (validator : ValidatorAddress) (claim : Claim) (b' : Bridge) : Prop
  | known (hKnown : b.store.Records validator (Attestation.start claim).key)
      (hSignals : b'.signals = b.signals)
  | first (hNone : ∀ details, ¬b.store.Records validator ⟨claim.kind, claim.nonce, details⟩)
      (hBacked : validator ∈ b'.store.votersAt (Attestation.start claim).key ∨
        claim.nonce ≤ b.store.claimCursor claim.kind)
      (hSignals : b'.signals = b.signals)
  | further {first : Digest}
      (hNew : ¬b.store.Records validator (Attestation.start claim).key)
      (hFirst : b.store.Records validator ⟨claim.kind, claim.nonce, first⟩)
      (hBacked : validator ∈ b.store.votersAt ⟨claim.kind, claim.nonce, first⟩ ∨
        claim.nonce ≤ b.store.claimCursor claim.kind)
      (hSignals : b'.signals = b.signals ++
        [.equivocation validator claim.kind claim.nonce first claim.fingerprint])

theorem Enacted.signals_eq (h : Enacted b claim b') : b'.signals = b.signals := by
  cases h with
  | credited => rfl
  | batch => rfl
  | valset => rfl

theorem signals_flag (hFiled : b.store.Filed) (first : Digest) :
    (b.flag (b.tally claim) validator first).signals = b.signals ++
      [.equivocation validator claim.kind claim.nonce first claim.fingerprint] := by
  have hKey := key_tally hFiled claim
  rw [flag, show (b.tally claim).claim.kind = claim.kind from congrArg AttestationKey.kind hKey,
    show (b.tally claim).claim.nonce = claim.nonce from congrArg AttestationKey.nonce hKey,
    show (b.tally claim).details = claim.fingerprint from congrArg AttestationKey.details hKey]

theorem mem_votersAt_cast (hFiled : b.store.Filed) (stored : Attestation)
    (hKey : stored.key = (b.tally claim).key)
    (hVotes : stored.votes = ((b.tally claim).cast validator power).votes)
    (hTallies : b'.store.attestations = b.store.attestations.insert stored.key stored) :
    validator ∈ b'.store.votersAt (Attestation.start claim).key := by
  rw [Store.votersAt, Store.votesAt_insert hTallies, hKey, key_tally hFiled, if_pos rfl, hVotes,
    Attestation.cast, List.map_append, List.mem_append]
  exact Or.inr (List.mem_singleton_self _)

theorem not_records_of_priorVote? (hGrounded : b.store.Grounded)
    (hNext : following (b.store.claimCursor claim.kind) = .ok claim.nonce)
    (hNew : b.priorVote? claim validator = none) (details : Digest) :
    ¬b.store.Records validator ⟨claim.kind, claim.nonce, details⟩ := by
  intro hRecords
  have hAbove : (b.store.claimCursor claim.kind).toNat < claim.nonce.toNat := by
    rw [following_eq_ok hNext]
    exact Nat.lt_succ_self _
  obtain ⟨d, hVoter⟩ := hGrounded validator _ hRecords hAbove
  exact not_mem_votersAt hNew d hVoter

/-- **What a claim reports.** -/
theorem Judged.noted (hFiled : b.store.Filed) (hGrounded : b.store.Grounded)
    (h : Judged b validator power claim outcome b') : Noted b validator claim b' := by
  have hUnknownKey (hUnknown : (b.tally claim).isRecorded validator = false) :
      ¬b.store.Records validator (Attestation.start claim).key := by
    rw [← isRecorded_tally hFiled, hUnknown]
    exact Bool.false_ne_true
  cases h with
  | accepted hNext hNew hFresh hOpen hShort =>
    exact .first (not_records_of_priorVote? hGrounded hNext hNew)
      (Or.inl (mem_votersAt_cast hFiled ((b.tally claim).cast validator power) rfl rfl rfl)) rfl
  | @finalized m hNext hNew hFresh hOpen hMet hEnacted =>
    exact .first (not_records_of_priorVote? hGrounded hNext hNew)
      (Or.inl (mem_votersAt_cast hFiled ((b.tally claim).cast validator power).close rfl rfl
        hEnacted.tables_settle.1))
      hEnacted.signals_eq
  | @resumed m prior hNext hPrior hSame hOpen hMet hEnacted =>
    exact .known ((isRecorded_tally hFiled).mp (isRecorded_of_same hFiled hPrior hSame))
      hEnacted.signals_eq
  | repeated hNext hPrior hSame =>
    exact .known ((isRecorded_tally hFiled).mp (isRecorded_of_same hFiled hPrior hSame)) rfl
  | contradicted hNext hPrior hOther hUnknown =>
    have hVoted := mem_votersAt_of_priorVote? hFiled hPrior
    exact .further (hUnknownKey hUnknown) (Store.records_of_mem_votersAt hVoted) (Or.inl hVoted)
      (signals_flag hFiled _)
  | lateRepeated hLate hSettled hKnown => exact .known ((isRecorded_tally hFiled).mp hKnown) rfl
  | @lateContradicted rival hLate hSettled hUnknown hRival =>
    have hRecorded := List.find?_some hRival
    rw [Bool.and_eq_true] at hRecorded
    have hFound := find?_of_mem_tallies hFiled (List.mem_of_find?_eq_some hRival)
    exact .further (hUnknownKey hUnknown) ⟨rival, hFound, hRecorded.2⟩ (Or.inr hLate)
      (signals_flag hFiled _)
  | late hLate hSettled hUnknown hAlone =>
    refine .first (not_records_of_tallies fun a hMem => ?_) (Or.inr hLate) rfl
    have hOther := List.find?_eq_none.mp hAlone a hMem
    by_cases hDetails : a.details = claim.fingerprint
    · have hFound := find?_of_mem_tallies hFiled hMem
      rw [hDetails] at hFound
      refine Bool.eq_false_iff.mpr fun hRecorded => hUnknownKey hUnknown ⟨a, hFound, hRecorded⟩
    · rw [Bool.and_eq_true, bne_iff_ne, not_and] at hOther
      exact Bool.eq_false_iff.mpr (hOther hDetails)

/-! ## Events -/

/-- The validator and the key of a claim that is not refused. -/
def claimedBy (b : Bridge) : Event → Option (ValidatorAddress × AttestationKey)
  | .message (.claim orchestrator claim) =>
    match submitClaim orchestrator claim b with
    | .ok _ _ => (b.registry.resolve orchestrator).map fun validator =>
      (validator, (Attestation.start claim).key)
    | .error _ _ => none
  | _ => none

/-- The validators and keys of the claims in some events that are not refused, in their order. -/
def testimony (b : Bridge) : List Event → List (ValidatorAddress × AttestationKey)
  | [] => []
  | event :: events => (b.claimedBy event).toList ++ (b.after event).testimony events

/-- What an event does to records, cursors and reports. -/
inductive Heard (b : Bridge) (event : Event) (b' : Bridge) : Prop
  | silent {new : List SlashingSignal} (hClaimed : b.claimedBy event = none)
      (hTallies : b'.store.attestations = b.store.attestations)
      (hCursors : b'.store.claimCursors = b.store.claimCursors)
      (hSignals : b'.signals = b.signals ++ new)
      (hOther : ∀ validator kind nonce, contradictions new validator kind nonce = [])
  | claimed {validator : ValidatorAddress} {power : UInt64} {claim : Claim}
      {outcome : ClaimOutcome} {m : Bridge}
      (hClaimed : b.claimedBy event = some (validator, (Attestation.start claim).key))
      (hJudged : Judged b validator power claim outcome m)
      (hStore : b'.store = m.store) (hSignals : b'.signals = m.signals)

theorem contradictions_missed (b : Bridge) (stream : ConfirmStream) (nonce : Nonce)
    (confirmed : ValidatorAddress → Bool) (v : ValidatorAddress) (k : ClaimKind) (n : Nonce) :
    contradictions (b.missed stream nonce confirmed) v k n = [] := by
  rw [contradictions, List.filterMap_eq_nil_iff, missed]
  intro signal hMem
  obtain ⟨validator, -, rfl⟩ := List.mem_map.mp hMem
  rfl

theorem claimedBy_eq_none
    (hOther : ∀ orchestrator claim, event ≠ .message (.claim orchestrator claim)) :
    b.claimedBy event = none := by
  cases event with
  | staking change => rfl
  | message message =>
    cases message with
    | claim orchestrator claim => exact absurd rfl (hOther orchestrator claim)
    | _ => rfl

theorem Step.heard_of_other (h : Step b event b')
    (hOther : ∀ orchestrator claim, event ≠ .message (.claim orchestrator claim)) :
    Heard b event b' := by
  have hNone := claimedBy_eq_none (b := b) hOther
  rcases h.claims_cases with ⟨hTallies, hCursors⟩ | ⟨orchestrator, claim, _, _, _, _, hEvent, -⟩
  · have hSilent (hSignals : b'.signals = b.signals) : Heard b event b' :=
      .silent hNone hTallies hCursors (hSignals.trans (List.append_nil _).symm) fun _ _ _ => rfl
    cases h with
    | handled h =>
      cases h with
      | claimed => exact absurd rfl (hOther _ _)
      | valsetReported hValset hSignals =>
        rw [hSignals]
        exact .silent hNone rfl rfl rfl (contradictions_missed b _ _ _)
      | batchReported hBatch hSignals =>
        rw [hSignals]
        exact .silent hNone rfl rfl rfl (contradictions_missed b _ _ _)
      | _ => exact hSilent rfl
    | _ => exact hSilent rfl
  · exact absurd hEvent (hOther orchestrator claim)

/-- **What an event does to records, cursors and reports.** -/
theorem heard_after (b : Bridge) (event : Event) : Heard b event (b.after event) := by
  by_cases hClaim : ∃ orchestrator claim, event = .message (.claim orchestrator claim)
  · obtain ⟨orchestrator, claim, rfl⟩ := hClaim
    rw [after_claim, left]
    cases hSubmit : submitClaim orchestrator claim b with
    | ok outcome b' =>
      obtain ⟨m, hJudge, rfl⟩ := submitClaim_eq_ok hSubmit
      obtain ⟨validator, power, -, hSigner, hJudged⟩ := judge_eq_ok hJudge
      refine .claimed ?_ hJudged rfl rfl
      rw [claimedBy, hSubmit, (signer_eq_ok.mp hSigner).1]
      rfl
    | error refusal b' =>
      rw [submitClaim_eq_error hSubmit]
      refine @Heard.silent _ _ _ [] ?_ rfl rfl (List.append_nil _).symm fun _ _ _ => rfl
      rw [claimedBy, hSubmit]
  · exact (step_after b event).heard_of_other fun orchestrator claim hEvent =>
      hClaim ⟨orchestrator, claim, hEvent⟩

theorem records_after (hFiled : b.store.Filed) (event : Event) :
    (b.after event).store.Records validator key ↔
      b.store.Records validator key ∨ b.claimedBy event = some (validator, key) := by
  cases heard_after b event with
  | silent hClaimed hTallies =>
    rw [Store.records_congr hTallies, hClaimed, or_iff_left (by nofun)]
  | claimed hClaimed hJudged hStore =>
    rw [hStore, hJudged.records_iff hFiled, hClaimed, or_comm, Option.some.injEq, Prod.mk.injEq,
      eq_comm (a := validator), eq_comm (a := key)]

/-- What is on record was on record at first, or was claimed in the run. -/
theorem records_run (hFiled : b.store.Filed) (events : List Event) :
    (b.run events).store.Records validator key ↔
      b.store.Records validator key ∨ (validator, key) ∈ b.testimony events := by
  induction events generalizing b with
  | nil => exact (or_iff_left List.not_mem_nil).symm
  | cons event events ih =>
    have hRest := ih (filed_step hFiled (step_after b event))
    rw [records_after hFiled, or_assoc] at hRest
    rw [testimony, List.mem_append, Option.mem_toList]
    exact hRest

/-! ## Runs -/

theorem claimCursor_mono (hFiled : b.store.Filed) (event : Event) (kind : ClaimKind) :
    (b.store.claimCursor kind).toNat ≤ ((b.after event).store.claimCursor kind).toNat := by
  rcases claimCursor_after hFiled kind event with ⟨-, hMoved⟩ | ⟨-, hStays⟩
  · rw [hMoved]
    exact Nat.le_succ _
  · exact Nat.le_of_eq (congrArg Nonce.toNat hStays.symm)

theorem votersAt_mono (hFiled : b.store.Filed) (event : Event)
    (h : validator ∈ b.store.votersAt key) : validator ∈ (b.after event).store.votersAt key := by
  obtain ⟨new, hVotes, -⟩ := exists_new_votes hFiled (step_after b event) key
  rw [Store.votersAt, hVotes, List.map_append, List.mem_append]
  exact Or.inl h

theorem grounded_after (hFiled : b.store.Filed) (hGrounded : b.store.Grounded) (event : Event) :
    (b.after event).store.Grounded := by
  intro validator key hRecords hAbove
  have hAbove' : (b.store.claimCursor key.kind).toNat < key.nonce.toNat :=
    Nat.lt_of_le_of_lt (claimCursor_mono hFiled event key.kind) hAbove
  have hOld (h : b.store.Records validator key) :
      ∃ d, validator ∈ (b.after event).store.votersAt ⟨key.kind, key.nonce, d⟩ := by
    obtain ⟨d, hVoter⟩ := hGrounded validator key h hAbove'
    exact ⟨d, votersAt_mono hFiled event hVoter⟩
  rcases (records_after hFiled event).mp hRecords with h | hClaimed
  · exact hOld h
  · cases heard_after b event with
    | silent hNone =>
      rw [hNone] at hClaimed
      cases hClaimed
    | @claimed v power claim outcome m hSome hJudged hStore =>
      rw [hSome] at hClaimed
      cases hClaimed
      cases hJudged.noted hFiled hGrounded with
      | known hKnown => exact hOld hKnown
      | first hNone hBacked =>
        rcases hBacked with hVoter | hLate
        · exact ⟨_, hStore ▸ hVoter⟩
        · exact absurd hLate (Nat.not_le.mpr hAbove')
      | further hNew hFirst hBacked =>
        rcases hBacked with hVoter | hLate
        · exact ⟨_, votersAt_mono hFiled event hVoter⟩
        · exact absurd hLate (Nat.not_le.mpr hAbove')

/-- A claimant with its claim is not this validator at this nonce of this kind. -/
def Elsewhere (claimant : ValidatorAddress) (claim : Claim) (validator : ValidatorAddress)
    (kind : ClaimKind) (nonce : Nonce) : Prop :=
  ¬(claimant = validator ∧ claim.kind = kind ∧ claim.nonce = nonce)

theorem contradictions_elsewhere {kind : ClaimKind} {nonce : Nonce}
    (h : Elsewhere other claim validator kind nonce) (first second : Digest) :
    contradictions [.equivocation other claim.kind claim.nonce first second] validator kind nonce =
      [] := by
  rw [contradictions, List.filterMap_eq_nil_iff]
  intro signal hMem
  rw [List.mem_singleton.mp hMem]
  exact if_neg h

theorem contradictions_here (validator : ValidatorAddress) (claim : Claim)
    (first second : Digest) :
    contradictions [.equivocation validator claim.kind claim.nonce first second] validator
      claim.kind claim.nonce = [(first, second)] := by
  rw [contradictions, List.filterMap_cons, SlashingSignal.contradiction?,
    if_pos ⟨rfl, rfl, rfl⟩, List.filterMap_nil]

/-- A claim reports at most about its own validator at its own nonce. -/
theorem Noted.elsewhere {kind : ClaimKind} {nonce : Nonce} (h : Noted b other claim b')
    (hElsewhere : Elsewhere other claim validator kind nonce) :
    ∃ new, b'.signals = b.signals ++ new ∧ contradictions new validator kind nonce = [] := by
  cases h with
  | known _ hSignals => exact ⟨[], hSignals.trans (List.append_nil _).symm, rfl⟩
  | first _ _ hSignals => exact ⟨[], hSignals.trans (List.append_nil _).symm, rfl⟩
  | further _ _ _ hSignals => exact ⟨_, hSignals, contradictions_elsewhere hElsewhere _ _⟩

/-- A claim keeps the account of its own validator at its own nonce. -/
theorem Noted.accounted {opening : Option Digest} {reports : List (Digest × Digest)}
    {s' : Store} (h : Noted b validator claim b')
    (hAccounted : b.store.Accounted validator claim.kind claim.nonce opening reports)
    (hRecords : ∀ d, s'.Records validator ⟨claim.kind, claim.nonce, d⟩ ↔
      d = claim.fingerprint ∨ b.store.Records validator ⟨claim.kind, claim.nonce, d⟩) :
    ∃ new opening', b'.signals = b.signals ++ new ∧
      s'.Accounted validator claim.kind claim.nonce opening'
        (reports ++ contradictions new validator claim.kind claim.nonce) := by
  have hSilent : contradictions [] validator claim.kind claim.nonce = [] := rfl
  cases h with
  | known hKnown hSignals =>
    refine ⟨[], opening, hSignals.trans (List.append_nil _).symm, ?_⟩
    rw [hSilent, List.append_nil]
    refine hAccounted.congr fun d => (hRecords d).trans (or_iff_right_of_imp ?_)
    rintro rfl
    exact hKnown
  | first hNone _ hSignals =>
    refine ⟨[], some claim.fingerprint, hSignals.trans (List.append_nil _).symm, ?_⟩
    rw [hSilent, List.append_nil]
    exact hAccounted.open hNone hRecords
  | further hNew hFirst _ hSignals =>
    refine ⟨_, opening, hSignals, ?_⟩
    rw [contradictions_here]
    exact hAccounted.report hNew hFirst hRecords

theorem accounted_after {kind : ClaimKind} {nonce : Nonce} {opening : Option Digest}
    {reports : List (Digest × Digest)} (hFiled : b.store.Filed) (hGrounded : b.store.Grounded)
    (h : b.store.Accounted validator kind nonce opening reports) (event : Event) :
    ∃ new opening', (b.after event).signals = b.signals ++ new ∧
      (b.after event).store.Accounted validator kind nonce opening'
        (reports ++ contradictions new validator kind nonce) := by
  cases heard_after b event with
  | silent hClaimed hTallies hCursors hSignals hOther =>
    refine ⟨_, opening, hSignals, ?_⟩
    rw [hOther, List.append_nil]
    exact h.congr fun d => Store.records_congr hTallies
  | @claimed v power claim outcome m hClaimed hJudged hStore hSignals =>
    have hNoted := hJudged.noted hFiled hGrounded
    have hRecords : ∀ d, (b.after event).store.Records validator ⟨kind, nonce, d⟩ ↔
        validator = v ∧ (⟨kind, nonce, d⟩ : AttestationKey) = (Attestation.start claim).key ∨
          b.store.Records validator ⟨kind, nonce, d⟩ := by
      intro d
      rw [hStore]
      exact hJudged.records_iff hFiled
    by_cases hElsewhere : Elsewhere v claim validator kind nonce
    · obtain ⟨new, hNew, hQuiet⟩ := hNoted.elsewhere hElsewhere
      refine ⟨new, opening, hSignals.trans hNew, ?_⟩
      rw [hQuiet, List.append_nil]
      refine h.congr fun d => (hRecords d).trans (or_iff_right_of_imp ?_)
      rintro ⟨rfl, hKey⟩
      exact absurd ⟨rfl, (congrArg AttestationKey.kind hKey).symm,
        (congrArg AttestationKey.nonce hKey).symm⟩ hElsewhere
    · obtain ⟨rfl, rfl, rfl⟩ := not_not.mp hElsewhere
      obtain ⟨new, opening', hNew, hAccounted⟩ := hNoted.accounted h fun d => by
        rw [hRecords, and_iff_right rfl, Attestation.key, Attestation.start,
          AttestationKey.mk.injEq, and_iff_right rfl, and_iff_right rfl]
      exact ⟨new, opening', hSignals.trans hNew, hAccounted⟩

theorem accounted_run {kind : ClaimKind} {nonce : Nonce} {opening : Option Digest}
    {reports : List (Digest × Digest)} (hFiled : b.store.Filed) (hGrounded : b.store.Grounded)
    (h : b.store.Accounted validator kind nonce opening reports) (events : List Event) :
    ∃ new opening', (b.run events).signals = b.signals ++ new ∧
      (b.run events).store.Accounted validator kind nonce opening'
        (reports ++ contradictions new validator kind nonce) := by
  induction events generalizing b opening reports with
  | nil =>
    refine ⟨[], opening, (List.append_nil _).symm, ?_⟩
    rw [show contradictions [] validator kind nonce = [] from rfl, List.append_nil]
    exact h
  | cons event events ih =>
    obtain ⟨new, opening', hSignals, hAccounted⟩ := accounted_after hFiled hGrounded h event
    obtain ⟨later, opening'', hLater, hAccounted'⟩ :=
      ih (filed_step hFiled (step_after b event)) (grounded_after hFiled hGrounded event) hAccounted
    refine ⟨new ++ later, opening'', ?_, ?_⟩
    · rw [← List.append_assoc, ← hSignals]
      exact hLater
    · rw [contradictions_append, ← List.append_assoc]
      exact hAccounted'

/-- **Equivocations.** In a run from an empty store a validator is on record under exactly the
fingerprints that were claimed for it and not refused. The reports about it at a nonce are one less
than the tallies there on which it is on record. What they name second is named once, and each names
two different fingerprints under which the validator is on record. -/
theorem equivocation_run (origin : Bridge) (events : List Event) (validator : ValidatorAddress)
    (kind : ClaimKind) (nonce : Nonce) :
    let b := origin.blank.run events
    (∀ details, b.store.Records validator ⟨kind, nonce, details⟩ ↔
      (validator, ⟨kind, nonce, details⟩) ∈ origin.blank.testimony events) ∧
    ∃ submitted, b.signals = origin.signals ++ submitted ∧
      let reports := contradictions submitted validator kind nonce
      reports.length = (b.store.recordsOf validator kind nonce).length - 1 ∧
      (reports.map Prod.snd).Nodup ∧
      ∀ report ∈ reports, report.1 ≠ report.2 ∧
        b.store.Records validator ⟨kind, nonce, report.1⟩ ∧
        b.store.Records validator ⟨kind, nonce, report.2⟩ := by
  intro b
  have hFiled : b.store.Filed := filed_run (filed_blank origin) events
  have hNone : ∀ key, ¬origin.blank.store.Records validator key := fun _ ⟨_, h, _⟩ => by cases h
  refine ⟨fun details => ?_, ?_⟩
  · rw [records_run (filed_blank origin), or_iff_right (hNone _)]
  obtain ⟨submitted, opening, hSignals, hAccounted⟩ := accounted_run (filed_blank origin)
    (fun _ _ h => absurd h (by rintro ⟨_, h, _⟩; cases h))
    (Store.accounted_empty validator kind nonce) events
  rw [List.nil_append] at hAccounted
  refine ⟨submitted, hSignals, hAccounted.length_eq hFiled,
    hAccounted.once.sublist (List.sublist_append_right _ _), fun report hMem => ?_⟩
  obtain ⟨hDifferent, hFirst⟩ := hAccounted.firsts report hMem
  exact ⟨hDifferent, hFirst, (hAccounted.records _).mpr
    (List.mem_append_right _ (List.mem_map_of_mem hMem))⟩

end Bridge

end TokenBridge

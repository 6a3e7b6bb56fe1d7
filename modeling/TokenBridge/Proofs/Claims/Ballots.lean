import TokenBridge.Proofs.Bridge.Writes
import TokenBridge.Proofs.Claims.FirstVotes
import TokenBridge.Proofs.Claims.Majority

/-!
# Ballots

Different validators claim what happened at the next nonce, and not all of them the same. Whatever
the order in which the claims arrive, the same fingerprint is settled, or none, and the bridge ends
the same.

* `Ballot`: the claims;
* `Pending`, `Closed`: the bridge after some of them, before and after the nonce is settled;
* `phase_after`, `phase_run`: one claim, and all;
* `Verdict`, `Verdict.unique`: what all claims come to, and that it does not depend on their order.
-/

namespace TokenBridge

open scoped List

def Submission.event (x : Submission) : Event :=
  .message (.claim x.account x.claim)

namespace Attestation

variable {a : Attestation} {validator : ValidatorAddress} {power : UInt64}

theorem power_cast : (a.cast validator power).power = a.power + power.toNat := by
  show ((a.votes ++ [(⟨validator, power⟩ : Vote)]).map fun vote : Vote => vote.power.toNat).sum = _
  rw [List.map_append, List.sum_append, List.map_singleton, List.sum_singleton]
  rfl

theorem hasVoted_eq_false (h : a.isRecorded validator = false) : a.hasVoted validator = false := by
  rw [isRecorded, Bool.or_eq_false_iff] at h
  exact h.1

end Attestation

namespace Store

variable {s s' : Store} {key : AttestationKey} {a : Attestation}

/-- The power that is counted under a key. -/
def powerAt (s : Store) (key : AttestationKey) : Nat :=
  ((s.votesAt key).map fun vote => vote.power.toNat).sum

theorem find?_of_attestationsAt_eq_nil {kind : ClaimKind} {nonce : Nonce}
    (hNone : s.attestationsAt kind nonce = []) (details : Digest) :
    s.attestations.find? ⟨kind, nonce, details⟩ = none := by
  cases hFound : s.attestations.find? ⟨kind, nonce, details⟩ with
  | none => rfl
  | some a =>
    have hMem := mem_attestationsAt.mpr ⟨details, hFound⟩
    rw [hNone] at hMem
    cases hMem

theorem powerAt_insert (hTallies : s'.attestations = s.attestations.insert a.key a)
    (key : AttestationKey) : s'.powerAt key = if key = a.key then a.power else s.powerAt key := by
  rw [powerAt, votesAt_insert hTallies]
  by_cases hKey : key = a.key
  · rw [if_pos hKey, if_pos hKey]
    rfl
  · rw [if_neg hKey, if_neg hKey, powerAt]

end Store

namespace Bridge

variable {b m n : Bridge} {kind : ClaimKind} {nonce : Nonce} {all done rest l l' : List Submission}
  {x y : Submission} {claim : Claim}

/-! ## Claims of different validators -/

/-- Sound claims at the following nonce of a kind, at which nothing has been claimed yet. They come
from accounts that act for different bonded validators with power, and those that differ have
different fingerprints. -/
structure Ballot (b : Bridge) (kind : ClaimKind) (nonce : Nonce) (l : List Submission) : Prop where
  next : nonce.toNat = (b.store.claimCursor kind).toNat + 1
  fresh : b.store.attestationsAt kind nonce = []
  valid : ∀ x ∈ l, x.claim.validate = .ok () ∧ x.claim.kind = kind ∧ x.claim.nonce = nonce
  voters : ∀ x ∈ l, ∃ validator, b.registry.resolve x.account = some validator ∧
    b.registry.isBonded validator = true ∧ b.registry.powerOf validator ≠ 0
  distinct : (l.map fun x => b.registry.resolve x.account).Nodup
  apart : ∀ x ∈ l, ∀ y ∈ l, x.claim.fingerprint = y.claim.fingerprint → x.claim = y.claim

theorem Ballot.perm (h : b.Ballot kind nonce l) (hPerm : l' ~ l) : b.Ballot kind nonce l' where
  next := h.next
  fresh := h.fresh
  valid x hMem := h.valid x (hPerm.subset hMem)
  voters x hMem := h.voters x (hPerm.subset hMem)
  distinct := (hPerm.map _).nodup_iff.mpr h.distinct
  apart x hx y hy := h.apart x (hPerm.subset hx) y (hPerm.subset hy)

theorem Ballot.key_start (h : b.Ballot kind nonce l) (hMem : x ∈ l) :
    (Attestation.start x.claim).key = ⟨kind, nonce, x.claim.fingerprint⟩ := by
  obtain ⟨-, hKind, hNonce⟩ := h.valid x hMem
  rw [← hKind, ← hNonce]
  rfl

/-- The effect of a claim is not refused. -/
def Feasible (b : Bridge) (claim : Claim) : Prop :=
  ∃ m, Enacted b claim m

/-- The power behind a fingerprint among some submissions exceeds the threshold. -/
def wins (b : Bridge) (l : List Submission) (details : Digest) : Bool :=
  b.params.threshold.isMet (b.registry.weight l details) b.registry.totalPower.toNat

/-- The cursor of a claim's kind stands at the claim. -/
def advance (b : Bridge) (claim : Claim) : Bridge :=
  { b with store := b.store.setClaimCursor claim.kind claim.nonce }

/-- Of the fingerprints on a ballot at most one wins. -/
theorem Ballot.eq_of_wins (h : b.Ballot kind nonce l) (hParams : b.params.validate = .ok ())
    (hTotal : b.registry.exactPower < UInt64.size) {d d' : Digest} (hWins : b.wins l d = true)
    (hWins' : b.wins l d' = true) : d = d' := by
  by_contra hOther
  have hVoters : ∀ x ∈ l, ∃ v, b.registry.resolve x.account = some v ∧
      b.registry.isBonded v = true := by
    intro x hMem
    obtain ⟨v, hResolve, hBonded, -⟩ := h.voters x hMem
    exact ⟨v, hResolve, hBonded⟩
  have hParts : b.registry.weight l d + b.registry.weight l d' ≤ b.registry.totalPower.toNat := by
    rw [Registry.toNat_totalPower hTotal]
    exact Nat.le_trans (Registry.weight_add_weight_le hOther l)
      (Registry.sum_strength_le hVoters h.distinct)
  have hShort := Threshold.not_both_met (Params.of_validate hParams).2.1 hParts hWins
  rw [wins, hShort] at hWins'
  cases hWins'

/-! ## The bridge after some of the claims -/

/-- The validators on record at a nonce are among those whose claims were submitted. -/
def RecordedFrom (b : Bridge) (kind : ClaimKind) (nonce : Nonce) (done : List Submission)
    (s : Store) : Prop :=
  ∀ validator details, s.Records validator ⟨kind, nonce, details⟩ →
    some validator ∈ done.map fun x => b.registry.resolve x.account

/-- The nonce is not settled. The validators on record are among those that have claimed, and the
power under a fingerprint is what has been claimed, unless its effect is refused. -/
structure Pending (b : Bridge) (kind : ClaimKind) (nonce : Nonce) (all done : List Submission)
    (m : Bridge) : Prop where
  same : m.untallied = b.untallied
  agreed : m.store.Agreed
  records : b.RecordedFrom kind nonce done m.store
  tallies : ∀ details a, m.store.attestations.find? ⟨kind, nonce, details⟩ = some a →
    a.finalized = false ∧ ∃ x ∈ all, x.claim = a.claim ∧ x.claim.fingerprint = details
  counted : ∀ x ∈ all, b.Feasible x.claim →
    m.store.powerAt ⟨kind, nonce, x.claim.fingerprint⟩ =
      b.registry.weight done x.claim.fingerprint ∧
    b.wins done x.claim.fingerprint = false

/-- The nonce is settled with a claim that wins among all. -/
structure Closed (b : Bridge) (kind : ClaimKind) (nonce : Nonce) (all done : List Submission)
    (m : Bridge) : Prop where
  agreed : m.store.Agreed
  records : b.RecordedFrom kind nonce done m.store
  settled : ∃ x ∈ all, b.wins all x.claim.fingerprint = true ∧
    (∃ n, Enacted b x.claim n ∧ m.untallied = (n.advance x.claim).untallied) ∧
    ∃ a, m.store.winners kind nonce = [a] ∧ a.details = x.claim.fingerprint

/-- The bridge after some of the claims on a ballot. -/
inductive Phase (b : Bridge) (kind : ClaimKind) (nonce : Nonce) (all done : List Submission)
    (m : Bridge) : Prop
  | pending (h : Pending b kind nonce all done m)
  | closed (h : Closed b kind nonce all done m)

theorem pending_nil (hAgreed : b.store.Agreed) (h : b.Ballot kind nonce all) :
    Pending b kind nonce all [] b := by
  have hNone : ∀ details, b.store.attestations.find? ⟨kind, nonce, details⟩ = none :=
    Store.find?_of_attestationsAt_eq_nil h.fresh
  refine ⟨rfl, hAgreed, fun v d hRecords => ?_, fun d a hFound => ?_, fun x hMem _ => ⟨?_, ?_⟩⟩
  · obtain ⟨a, hFound, -⟩ := hRecords
    rw [hNone] at hFound
    cases hFound
  · rw [hNone] at hFound
    cases hFound
  · rw [Store.powerAt, Store.votesAt, hNone]
    rfl
  · exact Threshold.isMet_zero _ _

/-! ## One claim more -/

theorem resolve_of_claimedBy {validator : ValidatorAddress} {key : AttestationKey}
    (h : m.claimedBy x.event = some (validator, key)) :
    m.registry.resolve x.account = some validator := by
  rw [Submission.event, claimedBy] at h
  cases hSubmit : submitClaim x.account x.claim m with
  | ok outcome b' =>
    rw [hSubmit] at h
    obtain ⟨v, hResolve, hEq⟩ := Option.map_eq_some_iff.mp h
    rw [hResolve, (Prod.mk.inj hEq).1]
  | error refusal b' =>
    rw [hSubmit] at h
    cases h

theorem records_event (hFiled : m.store.Filed) (hRegistry : m.registry = b.registry)
    (hRecords : b.RecordedFrom kind nonce done m.store) :
    b.RecordedFrom kind nonce (done ++ [x]) (m.after x.event).store := by
  intro v d h
  rw [List.map_append, List.mem_append]
  rcases (records_after hFiled x.event).mp h with hOld | hClaimed
  · exact Or.inl (hRecords v d hOld)
  · rw [← hRegistry, List.map_singleton, resolve_of_claimedBy hClaimed]
    exact Or.inr List.mem_cons_self

theorem Ballot.not_records (h : b.Ballot kind nonce all) (hAll : done ++ x :: rest = all)
    {validator : ValidatorAddress} (hResolve : b.registry.resolve x.account = some validator)
    (hRecords : b.RecordedFrom kind nonce done m.store) (details : Digest) :
    ¬m.store.Records validator ⟨kind, nonce, details⟩ := by
  intro hOn
  have hNodup := h.distinct
  rw [← hAll, List.map_append, List.nodup_append] at hNodup
  exact hNodup.2.2 _ (hRecords validator details hOn) _
    (List.mem_map_of_mem (f := fun x : Submission => b.registry.resolve x.account)
      List.mem_cons_self) hResolve.symm

theorem weight_done_le (hAll : done ++ x :: rest = all) (d : Digest) :
    b.registry.weight (done ++ [x]) d ≤ b.registry.weight all d := by
  rw [← hAll, List.append_cons done x rest, Registry.weight_append b.registry (done ++ [x])]
  exact Nat.le_add_right _ _

theorem strength_eq {validator : ValidatorAddress}
    (hResolve : b.registry.resolve x.account = some validator) :
    b.registry.strength x = (b.registry.powerOf validator).toNat := by
  rw [Registry.strength, hResolve]
  rfl

theorem power_tally (hFiled : b.store.Filed) (claim : Claim) :
    (b.tally claim).power = b.store.powerAt (Attestation.start claim).key := by
  rw [Store.powerAt, ← votes_tally hFiled]
  rfl

theorem Pending.tally_eq (h : Pending b kind nonce all done m) (hBallot : b.Ballot kind nonce all)
    (hMem : x ∈ all) :
    (m.tally x.claim).finalized = false ∧ (m.tally x.claim).claim = x.claim ∧
      (m.tally x.claim).power = m.store.powerAt ⟨kind, nonce, x.claim.fingerprint⟩ := by
  have hPower : (m.tally x.claim).power = m.store.powerAt ⟨kind, nonce, x.claim.fingerprint⟩ := by
    rw [power_tally h.agreed.filed, hBallot.key_start hMem]
  rw [Bridge.tally_eq h.agreed.filed, hBallot.key_start hMem] at hPower ⊢
  cases hFound : m.store.attestations.find? ⟨kind, nonce, x.claim.fingerprint⟩ with
  | none =>
    rw [hFound] at hPower
    exact ⟨rfl, rfl, hPower⟩
  | some a =>
    rw [hFound] at hPower
    obtain ⟨hOpen, y, hY, hClaim, hDetails⟩ := h.tallies _ a hFound
    exact ⟨hOpen, hClaim.symm.trans (hBallot.apart y hY x hMem hDetails), hPower⟩

theorem weight_concat (r : Registry) (done : List Submission) (x : Submission) (d : Digest) :
    r.weight (done ++ [x]) d =
      r.weight done d + if x.claim.fingerprint = d then r.strength x else 0 := by
  rw [Registry.weight_append, Registry.weight_singleton]

/-- The tally of a claim on the ballot, with the vote that is added after some others. -/
structure CastFor (b : Bridge) (kind : ClaimKind) (nonce : Nonce) (done : List Submission)
    (x : Submission) (a : Attestation) : Prop where
  key : a.key = ⟨kind, nonce, x.claim.fingerprint⟩
  claim : a.claim = x.claim
  opened : a.finalized = false
  power : b.Feasible x.claim → a.power = b.registry.weight (done ++ [x]) x.claim.fingerprint

/-- Before the nonce is settled, a claim on the ballot is a first vote. -/
theorem Pending.counted_after (h : Pending b kind nonce all done m)
    (hBallot : b.Ballot kind nonce all) (hAll : done ++ x :: rest = all) :
    ∃ a, CastFor b kind nonce done x a ∧ Counted m a (m.after x.event) := by
  have hMem : x ∈ all := hAll ▸ List.mem_append_right _ List.mem_cons_self
  obtain ⟨hValid, hKind, hNonce⟩ := hBallot.valid x hMem
  obtain ⟨v, hResolve, hBonded, hPositive⟩ := hBallot.voters x hMem
  obtain ⟨hOpen, hClaim, hPower⟩ := h.tally_eq hBallot hMem
  have hSigner : m.signer x.account = .ok (v, b.registry.powerOf v) := by
    rw [signer_eq_ok, registry_of_untallied h.same]
    exact ⟨hResolve, hBonded, rfl, hPositive⟩
  have hNext : following (m.store.claimCursor x.claim.kind) = .ok x.claim.nonce := by
    rw [Store.claimCursor_congr (claimCursors_of_untallied h.same), hKind, hNonce]
    exact following_of_toNat hBallot.next
  have hNot := hBallot.not_records hAll hResolve h.records
  have hUnknown : ∀ a ∈ m.tallies x.claim, a.isRecorded v = false :=
    not_recorded_of_not_records (hKind ▸ hNonce ▸ hNot)
  have hNew : m.priorVote? x.claim v = none := List.find?_eq_none.mpr fun a hA =>
    Bool.eq_false_iff.mp (Attestation.hasVoted_eq_false (hUnknown a hA))
  have hFresh : (m.tally x.claim).hasVoted v = false := by
    refine Attestation.hasVoted_eq_false (Bool.eq_false_iff.mpr fun hRecorded => ?_)
    rw [isRecorded_tally h.agreed.filed, hBallot.key_start hMem] at hRecorded
    exact hNot _ hRecorded
  refine ⟨(m.tally x.claim).cast v (b.registry.powerOf v), ⟨?_, hClaim, hOpen, fun hFeasible => ?_⟩,
    Bridge.counted_after hValid hSigner hNext hNew hFresh hOpen⟩
  · exact (key_tally h.agreed.filed x.claim).trans (hBallot.key_start hMem)
  · rw [Attestation.power_cast, hPower, (h.counted x hMem hFeasible).1, weight_concat, if_pos rfl,
      strength_eq hResolve]

theorem Pending.carries_eq (h : Pending b kind nonce all done m) (a : Attestation) :
    m.carries a = b.params.threshold.isMet a.power b.registry.totalPower.toNat := by
  rw [carries, params_of_untallied h.same, registry_of_untallied h.same]

theorem CastFor.carries_eq {a : Attestation} (hCast : CastFor b kind nonce done x a)
    (h : Pending b kind nonce all done m) (hFeasible : b.Feasible x.claim) :
    m.carries a = b.wins (done ++ [x]) x.claim.fingerprint := by
  rw [h.carries_eq, hCast.power hFeasible, wins]

theorem wins_concat_of_ne (b : Bridge) (done : List Submission) {d : Digest}
    (hOther : x.claim.fingerprint ≠ d) :
    b.registry.weight (done ++ [x]) d = b.registry.weight done d ∧
      b.wins (done ++ [x]) d = b.wins done d := by
  have hSame : b.registry.weight (done ++ [x]) d = b.registry.weight done d := by
    rw [weight_concat, if_neg hOther, Nat.add_zero]
  exact ⟨hSame, by rw [wins, hSame, wins]⟩

/-- A vote that falls short is counted. -/
theorem Pending.record {a : Attestation} (h : Pending b kind nonce all done m)
    (hBallot : b.Ballot kind nonce all) (hMem : x ∈ all) (hCast : CastFor b kind nonce done x a)
    (hShort : m.carries a = false) (hSame : n.untallied = m.untallied)
    (hTallies : n.store.attestations = m.store.attestations.insert a.key a)
    (hAgreed : n.store.Agreed)
    (hRecords : b.RecordedFrom kind nonce (done ++ [x]) n.store) :
    Pending b kind nonce all (done ++ [x]) n := by
  refine ⟨hSame.trans h.same, hAgreed, hRecords, fun d stored hFound => ?_,
    fun y hY hFeasible => ?_⟩
  · rw [hTallies, Table.find?_insert] at hFound
    by_cases hKey : ⟨kind, nonce, d⟩ = a.key
    · rw [if_pos hKey] at hFound
      cases hFound
      rw [hCast.key] at hKey
      exact ⟨hCast.opened, x, hMem, hCast.claim.symm, (congrArg AttestationKey.details hKey).symm⟩
    · rw [if_neg hKey] at hFound
      exact h.tallies d stored hFound
  · rw [Store.powerAt_insert hTallies, hCast.key]
    by_cases hFingerprint : y.claim.fingerprint = x.claim.fingerprint
    · have hClaim : y.claim = x.claim := hBallot.apart y hY x hMem hFingerprint
      rw [hClaim] at hFeasible ⊢
      rw [if_pos rfl, ← hCast.carries_eq h hFeasible]
      exact ⟨hCast.power hFeasible, hShort⟩
    · have hKey : (⟨kind, nonce, y.claim.fingerprint⟩ : AttestationKey) ≠
          ⟨kind, nonce, x.claim.fingerprint⟩ := fun hEq =>
        hFingerprint (congrArg AttestationKey.details hEq)
      obtain ⟨hWeight, hWins⟩ := wins_concat_of_ne b done (Ne.symm hFingerprint)
      rw [if_neg hKey, hWeight, hWins]
      exact h.counted y hY hFeasible

/-- A claim whose effect is refused can be left out. -/
theorem Pending.skip (h : Pending b kind nonce all done m) (hBallot : b.Ballot kind nonce all)
    (hMem : x ∈ all) (hBarred : ¬b.Feasible x.claim) (hSame : n.untallied = m.untallied)
    (hTallies : n.store.attestations = m.store.attestations) (hAgreed : n.store.Agreed)
    (hRecords : b.RecordedFrom kind nonce (done ++ [x]) n.store) :
    Pending b kind nonce all (done ++ [x]) n := by
  refine ⟨hSame.trans h.same, hAgreed, hRecords, hTallies ▸ h.tallies, fun y hY hFeasible => ?_⟩
  have hOther : x.claim.fingerprint ≠ y.claim.fingerprint := by
    intro hEq
    rw [← hBallot.apart x hMem y hY hEq] at hFeasible
    exact hBarred hFeasible
  obtain ⟨hWeight, hWins⟩ := wins_concat_of_ne b done hOther
  rw [Store.powerAt, Store.votesAt_congr hTallies, hWeight, hWins]
  exact h.counted y hY hFeasible

theorem untallied_settle {a : Attestation} (n : Bridge) :
    (n.settle a).untallied = n.untallied.advance a.claim :=
  rfl

/-- A vote that exceeds the threshold settles the nonce. -/
theorem Pending.close {a : Attestation} {m' : Bridge} (h : Pending b kind nonce all done m)
    (hAll : done ++ x :: rest = all) (hCast : CastFor b kind nonce done x a)
    (hMet : m.carries a = true)
    (hEnacted : Enacted m a.claim n) (hSame : m'.untallied = (n.settle a).untallied)
    (hTallies : m'.store.attestations = (n.settle a).store.attestations)
    (hAgreed : m'.store.Agreed)
    (hRecords : b.RecordedFrom kind nonce (done ++ [x]) m'.store) :
    Closed b kind nonce all (done ++ [x]) m' := by
  have hMem : x ∈ all := hAll ▸ List.mem_append_right _ List.mem_cons_self
  rw [hCast.claim] at hEnacted
  obtain ⟨n', hEnacted', hEffect⟩ := hEnacted.congr h.same.symm
  refine ⟨hAgreed, hRecords, x, hMem, ?_, ⟨n', hEnacted', ?_⟩, a.close, ?_, ?_⟩
  · refine Threshold.isMet_mono (weight_done_le hAll _) ?_
    rwa [hCast.carries_eq h ⟨n', hEnacted'⟩] at hMet
  · rw [hSame, untallied_settle, ← hEffect, hCast.claim]
    rfl
  · have hFound : m'.store.attestations.find? a.close.key = some a.close := by
      rw [hTallies, (hEnacted.tables_settle (a := a)).1, Table.find?_insert]
      exact if_pos rfl
    exact hAgreed.winners_eq (Store.mem_winners.mpr ⟨Table.mem_values_of_find? hFound,
      congrArg AttestationKey.kind hCast.key, congrArg AttestationKey.nonce hCast.key, rfl⟩)
  · exact congrArg AttestationKey.details hCast.key

/-- Before the nonce is settled, a claim is counted, or settles the nonce, or is refused. -/
theorem Pending.event (h : Pending b kind nonce all done m) (hBallot : b.Ballot kind nonce all)
    (hAll : done ++ x :: rest = all) : Phase b kind nonce all (done ++ [x]) (m.after x.event) := by
  have hMem : x ∈ all := hAll ▸ List.mem_append_right _ List.mem_cons_self
  have hAgreed := agreed_step h.agreed (step_after m x.event)
  have hRecords := records_event (x := x) h.agreed.filed (registry_of_untallied h.same) h.records
  obtain ⟨a, hCast, hCounted⟩ := h.counted_after hBallot hAll
  generalize m.after x.event = m' at hAgreed hRecords hCounted ⊢
  cases hCounted with
  | short hShort =>
    exact .pending (h.record hBallot hMem hCast hShort rfl rfl hAgreed hRecords)
  | carried hMet hEnacted =>
    exact .closed (h.close hAll hCast hMet hEnacted rfl rfl hAgreed hRecords)
  | barred hMet hBarred =>
    refine .pending (h.skip hBallot hMem ?_ rfl rfl hAgreed hRecords)
    rintro ⟨n, hEnacted⟩
    obtain ⟨n', hEnacted', -⟩ := hEnacted.congr h.same
    exact hBarred n' (hCast.claim ▸ hEnacted')

/-- Once the nonce is settled, a claim only goes on record. -/
theorem Closed.event (h : Closed b kind nonce all done m) (hBallot : b.Ballot kind nonce all)
    (hAll : done ++ x :: rest = all) : Closed b kind nonce all (done ++ [x]) (m.after x.event) := by
  have hMem : x ∈ all := hAll ▸ List.mem_append_right _ List.mem_cons_self
  have hStep := step_after m x.event
  have hAgreed := agreed_step h.agreed hStep
  obtain ⟨y, hY, hWins, ⟨n, hEnacted, hSame⟩, a, hWinner, hDetails⟩ := h.settled
  obtain ⟨-, hKind, hNonce⟩ := hBallot.valid x hMem
  obtain ⟨-, hKind', hNonce'⟩ := hBallot.valid y hY
  obtain ⟨v, hResolve, -⟩ := hBallot.voters x hMem
  have hRegistry : m.registry = b.registry :=
    (registry_of_untallied hSame).trans hEnacted.registry_eq
  have hCursor : m.store.claimCursor kind = nonce := by
    have hCursors : m.store.claimCursors = n.store.claimCursors.insert y.claim.kind y.claim.nonce :=
      claimCursors_of_untallied hSame
    rw [Store.claimCursor_insert hCursors, if_pos hKind'.symm, hNonce']
  have hLate : x.claim.nonce ≤ m.store.claimCursor x.claim.kind := by
    rw [hKind, hNonce, hCursor]
    exact Nat.le_refl _
  have hNot := hBallot.not_records hAll hResolve h.records
  have hUntallied : (m.after x.event).untallied = m.untallied :=
    untallied_after_late hLate (hRegistry ▸ hResolve) (hKind ▸ hNonce ▸ hNot)
  obtain ⟨a', hWinner', hLater⟩ :=
    h.agreed.winners_later hAgreed (grows_step h.agreed.filed hStep) hWinner
  exact ⟨hAgreed, records_event h.agreed.filed hRegistry h.records, y, hY, hWins,
    ⟨n, hEnacted, hUntallied.trans hSame⟩, a', hWinner', hLater.details_eq.trans hDetails⟩

/-! ## All claims -/

theorem phase_event (h : Phase b kind nonce all done m) (hBallot : b.Ballot kind nonce all)
    (hAll : done ++ x :: rest = all) :
    Phase b kind nonce all (done ++ [x]) (m.after x.event) := by
  cases h with
  | pending h => exact h.event hBallot hAll
  | closed h => exact .closed (h.event hBallot hAll)

theorem phase_run (h : Phase b kind nonce all done m) (hBallot : b.Ballot kind nonce all)
    (hAll : done ++ rest = all) :
    Phase b kind nonce all all (m.run (rest.map Submission.event)) := by
  induction rest generalizing done m with
  | nil =>
    rw [List.append_nil] at hAll
    exact hAll ▸ h
  | cons x rest ih =>
    refine ih (phase_event h hBallot hAll) ?_
    rw [← hAll, ← List.append_cons]

/-! ## What a ballot comes to -/

/-- What all claims on a ballot come to: nothing, or a claim that wins, with its effect. -/
inductive Verdict (b : Bridge) (kind : ClaimKind) (nonce : Nonce) (l : List Submission)
    (m : Bridge) : Prop
  | undecided (hSame : m.untallied = b.untallied) (hNone : m.store.winners kind nonce = [])
      (hShort : ∀ x ∈ l, b.Feasible x.claim → b.wins l x.claim.fingerprint = false)
  | decided {x : Submission} {n : Bridge} {a : Attestation} (hMem : x ∈ l)
      (hWins : b.wins l x.claim.fingerprint = true) (hEnacted : Enacted b x.claim n)
      (hSame : m.untallied = (n.advance x.claim).untallied)
      (hWinner : m.store.winners kind nonce = [a]) (hDetails : a.details = x.claim.fingerprint)

theorem verdict_run (hAgreed : b.store.Agreed) (hBallot : b.Ballot kind nonce l) :
    Verdict b kind nonce l (b.run (l.map Submission.event)) := by
  cases phase_run (.pending (pending_nil hAgreed hBallot)) hBallot rfl with
  | pending h =>
    refine .undecided h.same (h.agreed.winners_eq_nil ?_) fun x hMem hFeasible =>
      (h.counted x hMem hFeasible).2
    rw [Store.claimCursor_congr (claimCursors_of_untallied h.same), hBallot.next]
    exact Nat.lt_succ_self _
  | closed h =>
    obtain ⟨x, hMem, hWins, ⟨n, hEnacted, hSame⟩, a, hWinner, hDetails⟩ := h.settled
    exact .decided hMem hWins hEnacted hSame hWinner hDetails

/-- What a ballot comes to is said without the order of its claims. -/
theorem Verdict.perm (h : Verdict b kind nonce l m) (hPerm : l ~ l') :
    Verdict b kind nonce l' m := by
  have hWeight (d : Digest) : b.wins l' d = b.wins l d := by
    rw [wins, ← Registry.weight_perm hPerm, wins]
  cases h with
  | undecided hSame hNone hShort =>
    refine .undecided hSame hNone fun x hMem hFeasible => ?_
    rw [hWeight]
    exact hShort x (hPerm.symm.subset hMem) hFeasible
  | @decided x n a hMem hWins hEnacted hSame hWinner hDetails =>
    rw [← hWeight] at hWins
    exact .decided (hPerm.subset hMem) hWins hEnacted hSame hWinner hDetails

/-- A ballot comes to one thing only. -/
theorem Verdict.unique (hBallot : b.Ballot kind nonce l) (hParams : b.params.validate = .ok ())
    (hTotal : b.registry.exactPower < UInt64.size) (h : Verdict b kind nonce l m)
    (h' : Verdict b kind nonce l n) :
    (n.store.winners kind nonce).map Attestation.details =
      (m.store.winners kind nonce).map Attestation.details ∧
    (m.store.winners kind nonce).length ≤ 1 ∧ n.untallied = m.untallied := by
  have hNever {x : Submission} {e : Bridge} (hMem : x ∈ l)
      (hWins : b.wins l x.claim.fingerprint = true) (hEnacted : Enacted b x.claim e)
      (hShort : ∀ x ∈ l, b.Feasible x.claim → b.wins l x.claim.fingerprint = false) : False := by
    rw [hShort x hMem ⟨e, hEnacted⟩] at hWins
    cases hWins
  cases h with
  | undecided hSame hNone hShort =>
    cases h' with
    | undecided hSame' hNone' hShort' =>
      rw [hNone, hNone']
      exact ⟨rfl, Nat.zero_le 1, hSame'.trans hSame.symm⟩
    | decided hMem hWins hEnacted => exact (hNever hMem hWins hEnacted hShort).elim
  | @decided x e a hMem hWins hEnacted hSame hWinner hDetails =>
    cases h' with
    | undecided hSame' hNone' hShort' => exact (hNever hMem hWins hEnacted hShort').elim
    | @decided x' e' a' hMem' hWins' hEnacted' hSame' hWinner' hDetails' =>
      have hClaim : x'.claim = x.claim := hBallot.apart x' hMem' x hMem
        (hBallot.eq_of_wins hParams hTotal hWins' hWins)
      rw [hClaim] at hEnacted' hSame' hDetails'
      rw [hWinner, hWinner', List.map_singleton, List.map_singleton, hDetails, hDetails', hSame,
        hSame', hEnacted'.unique hEnacted]
      exact ⟨rfl, Nat.le_refl 1, rfl⟩

/-- **Order of submission.** After a run from an empty store under valid settings, where the
validators have together less than `2 ^ 64` of power, different validators submit claims at the
following nonce of a kind. In whatever order they do, the same fingerprint becomes final, if any
does, and no other one; and the bridges are the same apart from tallies and counts, with the same
cursors, balances, transfers, batches, signer sets, confirmations and reports. -/
theorem ballot_run (origin : Bridge) (events : List Event) (kind : ClaimKind) (nonce : Nonce)
    (l l' : List Submission) (hParams : origin.params.validate = .ok ())
    (hTotal : (origin.blank.run events).registry.exactPower < UInt64.size)
    (hBallot : (origin.blank.run events).Ballot kind nonce l) (hPerm : l' ~ l) :
    let b := (origin.blank.run events).run (l.map Submission.event)
    let b' := (origin.blank.run events).run (l'.map Submission.event)
    (b'.store.winners kind nonce).map Attestation.details =
      (b.store.winners kind nonce).map Attestation.details ∧
    (b.store.winners kind nonce).length ≤ 1 ∧ b'.untallied = b.untallied := by
  have hAgreed := agreed_run (b := origin.blank) Store.agreed_empty events
  have hKept : (origin.blank.run events).params = origin.params := params_run origin.blank events
  exact (verdict_run hAgreed hBallot).unique hBallot (hKept ▸ hParams) hTotal
    ((verdict_run hAgreed (hBallot.perm hPerm)).perm hPerm)

/-- Two validators, the first of which has three quarters of the power. -/
def unequalPair : List Event :=
  [.staking (.bond ⟨.ofNat 20 1⟩ 3 ⟨.ofNat 20 2⟩), .staking (.bond ⟨.ofNat 20 3⟩ 1 ⟨.ofNat 20 4⟩)]

/-- The first deposit, as each of two validators claims it. -/
def rivalDeposits : List Submission :=
  [⟨⟨.ofNat 20 2⟩, .deposit ⟨1⟩ ⟨⟨700, by decide⟩, "USD", ⟨.ofNat 20 7⟩⟩ ⟨.ofNat 20 5⟩
      ⟨.ofNat 20 6⟩⟩,
    ⟨⟨.ofNat 20 4⟩, .deposit ⟨1⟩ ⟨⟨800, by decide⟩, "USD", ⟨.ofNat 20 7⟩⟩ ⟨.ofNat 20 5⟩
      ⟨.ofNat 20 6⟩⟩]

/-- The claim of the stronger validator becomes final in both orders. -/
theorem ballot_of_rivalDeposits :
    let start := (default : Bridge).blank.run unequalPair
    let b := start.run (rivalDeposits.map Submission.event)
    let b' := start.run (rivalDeposits.reverse.map Submission.event)
    b.store.claimCursor .deposit = ⟨1⟩ ∧
    (b'.store.winners .deposit ⟨1⟩).map Attestation.details =
      (b.store.winners .deposit ⟨1⟩).map Attestation.details ∧
    (b.store.winners .deposit ⟨1⟩).length ≤ 1 ∧ b'.untallied = b.untallied := by
  have hFinal : (((default : Bridge).blank.run unequalPair).run
      (rivalDeposits.map Submission.event)).store.claimCursor .deposit = ⟨1⟩ := by
    decide +kernel
  have hDigests : (rivalDeposits.map fun x => x.claim.fingerprint).Nodup := by
    decide +kernel
  have hBallot : ((default : Bridge).blank.run unequalPair).Ballot .deposit ⟨1⟩ rivalDeposits :=
    { next := rfl
      fresh := rfl
      valid := List.forall_mem_cons.mpr ⟨⟨rfl, rfl, rfl⟩,
        List.forall_mem_cons.mpr ⟨⟨rfl, rfl, rfl⟩, fun _ h => absurd h List.not_mem_nil⟩⟩
      voters := List.forall_mem_cons.mpr ⟨⟨_, rfl, rfl, by decide⟩,
        List.forall_mem_cons.mpr ⟨⟨_, rfl, rfl, by decide⟩, fun _ h => absurd h List.not_mem_nil⟩⟩
      distinct := by decide
      apart := fun x hx y hy h =>
        congrArg Submission.claim (List.inj_on_of_nodup_map hDigests hx hy h) }
  exact ⟨hFinal, ballot_run default unequalPair .deposit ⟨1⟩ rivalDeposits rivalDeposits.reverse rfl
    (by decide) hBallot (List.reverse_perm _)⟩

end Bridge

end TokenBridge

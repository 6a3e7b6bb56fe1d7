import TokenBridge.Proofs.Bridge.Parallel
import TokenBridge.Proofs.Claims.Ballots
import TokenBridge.Proofs.Table.Building

/-!
# Unanimous claims

All bonded validators that have power submit the same claim. Together they have all of the bonded
power, so the claim becomes final in one of the submissions, whatever their order, if the threshold
is below one. The threshold one is valid as well, but it has to be exceeded, which all of the power
does not.

* `Registry.agents`, `Registry.weight_agents`: who submits, and the power behind the claim;
* `Threshold.isMet_self`: when all of the power exceeds a threshold;
* `claimAnswers`, `claimCursor_run_claims`: the answers to some claims, and the cursor after them;
* `unanimity_run`: how often the answer is `finalized`.
-/

namespace TokenBridge

open scoped List

/-- All of the power exceeds a fraction exactly if the fraction is below one. -/
theorem Threshold.isMet_self {t : Threshold} {total : Nat} (hTotal : total ≠ 0) :
    t.isMet total total = true ↔ t.numerator < t.denominator := by
  rw [isMet_iff, UInt64.lt_iff_toNat_lt]
  constructor
  · rintro ⟨-, hMore⟩
    exact Nat.lt_of_mul_lt_mul_left hMore
  · exact fun hLess => ⟨hTotal, Nat.mul_lt_mul_of_pos_left hLess (Nat.pos_of_ne_zero hTotal)⟩

/-! ## Validators that vote -/

namespace Registry

variable {r : Registry} {entry : ValidatorAddress × Standing}

/-- No account acts for two validators. -/
def AgentsApart (r : Registry) : Prop :=
  (r.standings.entries.map fun entry => entry.2.orchestrator).Nodup

instance (r : Registry) : Decidable r.AgentsApart :=
  inferInstanceAs (Decidable (List.Nodup _))

/-- The bonded validators that have power. -/
def voters (r : Registry) : List (ValidatorAddress × Standing) :=
  r.standings.entries.filter fun entry => entry.2.bonded && entry.2.power != 0

/-- The accounts that act for the bonded validators that have power. -/
def agents (r : Registry) : List AccountAddress :=
  r.voters.map fun entry => entry.2.orchestrator

theorem mem_voters :
    entry ∈ r.voters ↔
      entry ∈ r.standings.entries ∧ entry.2.bonded = true ∧ entry.2.power ≠ 0 := by
  rw [voters, List.mem_filter, Bool.and_eq_true, bne_iff_ne]

/-- Where no account acts for two validators, each acts for its own. -/
theorem AgentsApart.resolve_eq (h : r.AgentsApart) (hMem : entry ∈ r.standings.entries) :
    r.resolve entry.2.orchestrator = some entry.1 := by
  rw [resolve]
  cases hFound : r.standings.entries.find? fun other =>
      other.2.orchestrator == entry.2.orchestrator with
  | none => exact absurd BEq.rfl (List.find?_eq_none.mp hFound entry hMem)
  | some other =>
    have hMatch := List.find?_some hFound
    have hSame : other = entry :=
      List.inj_on_of_nodup_map h (List.mem_of_find?_eq_some hFound) hMem (eq_of_beq hMatch)
    exact congrArg (fun other => some (Prod.fst other)) hSame

theorem bonded_of_mem_voters (hMem : entry ∈ r.voters) :
    r.isBonded entry.1 = true ∧ r.powerOf entry.1 = entry.2.power := by
  obtain ⟨hEntry, hBonded, -⟩ := mem_voters.mp hMem
  have hFound : r.standings.find? entry.1 = some entry.2 := Table.mem_entries_iff.mp hEntry
  rw [isBonded, powerOf, hFound, Option.filter_some, if_pos hBonded]
  exact ⟨hBonded, rfl⟩

theorem sum_voters (r : Registry) :
    (r.voters.map fun entry => entry.2.power.toNat).sum = r.exactPower := by
  show _ = List.sum _
  rw [bonded, List.map_map, voters]
  induction r.standings.entries with
  | nil => rfl
  | cons entry rest ih =>
    by_cases hBonded : entry.2.bonded = true
    · by_cases hPower : entry.2.power = 0
      · simpa [hBonded, hPower] using ih
      · simpa [hBonded, hPower] using ih
    · simpa [hBonded] using ih

theorem exactPower_ne_zero (h : r.agents ≠ []) : r.exactPower ≠ 0 := by
  obtain ⟨account, hAccount⟩ := List.exists_mem_of_ne_nil _ h
  obtain ⟨entry, hMem, -⟩ := List.mem_map.mp hAccount
  obtain ⟨hBonded, hPower⟩ := bonded_of_mem_voters hMem
  have hPart := sum_powerOf_le (r := r) (List.nodup_singleton entry.1)
    (List.forall_mem_singleton.mpr hBonded)
  rw [List.map_singleton, List.sum_singleton, hPower] at hPart
  have hSome : entry.2.power.toNat ≠ 0 := fun hZero =>
    (mem_voters.mp hMem).2.2 (UInt64.toNat_inj.mp hZero)
  omega

end Registry

def Claim.submittedBy (claim : Claim) (accounts : List AccountAddress) : List Submission :=
  accounts.map fun account => ⟨account, claim⟩

theorem Claim.eq_of_mem_submittedBy {claim : Claim} {accounts : List AccountAddress}
    {x : Submission} (hMem : x ∈ claim.submittedBy accounts) : x.claim = claim := by
  obtain ⟨account, -, rfl⟩ := List.mem_map.mp hMem
  rfl

namespace Registry

variable {r : Registry}

/-- Behind the claim of all of them stands all of the power. -/
theorem weight_agents (h : r.AgentsApart) (claim : Claim) :
    r.weight (claim.submittedBy r.agents) claim.fingerprint = r.exactPower := by
  have hAll : (claim.submittedBy r.agents).filter
      (fun x => x.claim.fingerprint == claim.fingerprint) = claim.submittedBy r.agents := by
    refine List.filter_eq_self.mpr fun x hMem => ?_
    rw [Claim.eq_of_mem_submittedBy hMem, beq_self_eq_true]
  rw [weight, hAll, ← sum_voters, Claim.submittedBy, agents, List.map_map, List.map_map]
  refine congrArg List.sum (List.map_congr_left fun entry hMem => ?_)
  show r.strength ⟨entry.2.orchestrator, claim⟩ = entry.2.power.toNat
  rw [strength, h.resolve_eq (mem_voters.mp hMem).1, ← (bonded_of_mem_voters hMem).2]
  rfl

end Registry

namespace Bridge

variable {b m : Bridge} {x : Submission} {claim : Claim} {accounts : List AccountAddress}

/-! ## The answers to some claims -/

/-- The answers to some claims, each submitted where the one before it has left the bridge. -/
def claimAnswers (b : Bridge) : List Submission → List (Except BridgeError ClaimOutcome)
  | [] => []
  | x :: rest => answer (submitClaim x.account x.claim) b :: (b.after x.event).claimAnswers rest

theorem answer_eq_finalized_iff :
    answer (submitClaim x.account x.claim) b = .ok .finalized ↔
      b.Finalizes x.claim.kind x.event := by
  constructor
  · exact fun h => ⟨x.account, x.claim, _, rfl, rfl, eq_ok_of_answer h⟩
  · rintro ⟨account, claim, b', hEvent, -, hSubmit⟩
    cases hEvent
    rw [answer, hSubmit]

/-- The cursor moves on once for each answer `finalized`. -/
theorem claimCursor_run_claims {kind : ClaimKind} (l : List Submission)
    (hFiled : b.store.Filed) (hKind : ∀ x ∈ l, x.claim.kind = kind) :
    ((b.run (l.map Submission.event)).store.claimCursor kind).toNat =
      (b.store.claimCursor kind).toNat + (b.claimAnswers l).count (.ok .finalized) := by
  induction l generalizing b with
  | nil => rfl
  | cons x rest ih =>
    obtain ⟨hFirst, hRest⟩ := List.forall_mem_cons.mp hKind
    have hLater := ih (filed_step hFiled (step_after b x.event)) hRest
    have hAnswer := answer_eq_finalized_iff (b := b) (x := x)
    rw [hFirst] at hAnswer
    rw [claimAnswers, List.count_cons]
    show (((b.after x.event).run (rest.map Submission.event)).store.claimCursor kind).toNat = _
    rcases claimCursor_after hFiled kind x.event with ⟨hFinal, hMoved⟩ | ⟨hOther, hStays⟩
    · rw [if_pos (beq_iff_eq.mpr (hAnswer.mpr hFinal)), hLater, hMoved]
      omega
    · rw [if_neg fun h => hOther (hAnswer.mp (beq_iff_eq.mp h)), hLater, hStays]
      rfl

/-! ## The same claim of all -/

/-- The same sound claim of all validators that have power is a ballot. -/
theorem ballot_of_agents (hApart : b.registry.AgentsApart) (hValid : claim.validate = .ok ())
    (hNext : claim.nonce.toNat = (b.store.claimCursor claim.kind).toNat + 1)
    (hFresh : b.store.attestationsAt claim.kind claim.nonce = []) :
    b.Ballot claim.kind claim.nonce (claim.submittedBy b.registry.agents) where
  next := hNext
  fresh := hFresh
  valid x hMem := by
    rw [Claim.eq_of_mem_submittedBy hMem]
    exact ⟨hValid, rfl, rfl⟩
  voters x hMem := by
    obtain ⟨account, hAccount, rfl⟩ := List.mem_map.mp hMem
    obtain ⟨entry, hEntry, rfl⟩ := List.mem_map.mp hAccount
    obtain ⟨hStanding, -, hPower⟩ := Registry.mem_voters.mp hEntry
    obtain ⟨hBonded, hSame⟩ := Registry.bonded_of_mem_voters hEntry
    exact ⟨entry.1, hApart.resolve_eq hStanding, hBonded, hSame ▸ hPower⟩
  distinct := by
    have hValidators : (claim.submittedBy b.registry.agents).map
        (fun x => b.registry.resolve x.account) =
          (b.registry.voters.map Prod.fst).map some := by
      rw [Claim.submittedBy, Registry.agents, List.map_map, List.map_map, List.map_map]
      exact List.map_congr_left fun entry hMem =>
        hApart.resolve_eq (Registry.mem_voters.mp hMem).1
    have hKeys : (b.registry.voters.map Prod.fst).Nodup :=
      (Table.nodup_keys b.registry.standings).sublist (List.filter_sublist.map Prod.fst)
    rw [hValidators]
    exact hKeys.map fun _ _ => Option.some.inj
  apart x hx y hy _ := by
    rw [Claim.eq_of_mem_submittedBy hx, Claim.eq_of_mem_submittedBy hy]

/-- The same claim of all validators that have power wins exactly if the threshold is below one. -/
theorem wins_agents (claim : Claim) (hTotal : b.registry.exactPower < UInt64.size)
    (hApart : b.registry.AgentsApart) (hSome : b.registry.agents ≠ [])
    (hAll : accounts ~ b.registry.agents) :
    b.wins (claim.submittedBy accounts) claim.fingerprint = true ↔
      b.params.threshold.numerator < b.params.threshold.denominator := by
  have hPerm : claim.submittedBy accounts ~ claim.submittedBy b.registry.agents := hAll.map _
  rw [wins, Registry.weight_perm hPerm, Registry.weight_agents hApart,
    Registry.toNat_totalPower hTotal, Threshold.isMet_self (Registry.exactPower_ne_zero hSome)]

/-- The same claim of several accounts is answered once with `finalized` if it wins, and never
otherwise, as long as its effect is not refused. -/
theorem count_finalized (hAgreed : b.store.Agreed) (hSome : accounts ≠ [])
    (hBallot : b.Ballot claim.kind claim.nonce (claim.submittedBy accounts))
    (hFeasible : b.Feasible claim) :
    (b.claimAnswers (claim.submittedBy accounts)).count (.ok .finalized) =
      if b.wins (claim.submittedBy accounts) claim.fingerprint then 1 else 0 := by
  have hCursor := claimCursor_run_claims (claim.submittedBy accounts) hAgreed.filed
    fun x hMem => (hBallot.valid x hMem).2.1
  -- the cursor tells the number of these answers: it stays, or it stands at the claim
  cases verdict_run hAgreed hBallot with
  | undecided hSame hNone hShort =>
    obtain ⟨account, hAccount⟩ := List.exists_mem_of_ne_nil accounts hSome
    have hMem : (⟨account, claim⟩ : Submission) ∈ claim.submittedBy accounts :=
      List.mem_map_of_mem hAccount
    rw [Store.claimCursor_congr (claimCursors_of_untallied hSame)] at hCursor
    rw [hShort _ hMem hFeasible, if_neg Bool.false_ne_true]
    omega
  | @decided x n a hMem hWins hEnacted hSame hWinner hDetails =>
    have hClaim := Claim.eq_of_mem_submittedBy hMem
    rw [hClaim] at hWins hSame
    have hCursors : (b.run ((claim.submittedBy accounts).map Submission.event)).store.claimCursors =
        n.store.claimCursors.insert claim.kind claim.nonce := claimCursors_of_untallied hSame
    rw [Store.claimCursor_insert hCursors, if_pos rfl, hBallot.next] at hCursor
    rw [hWins, if_pos rfl]
    omega

/-- **Unanimity.** After a run from an empty store let no account act for two validators, and let
some bonded validator have power, with less than `2 ^ 64` of power in all. Let all bonded validators
that have power submit one sound claim of the next signer set event, at which nothing has been
claimed yet. Then, in whatever order they submit, one of the answers is `finalized` if the threshold
is below one, and none is if it is one. -/
theorem unanimity_run (origin : Bridge) (events : List Event) (nonce valsetNonce : Nonce)
    (accounts : List AccountAddress)
    (hSome : (origin.blank.run events).registry.agents ≠ [])
    (hTotal : (origin.blank.run events).registry.exactPower < UInt64.size)
    (hApart : (origin.blank.run events).registry.AgentsApart)
    (hNext : nonce.toNat =
      ((origin.blank.run events).store.claimCursor .valsetExecuted).toNat + 1)
    (hFresh : (origin.blank.run events).store.attestationsAt .valsetExecuted nonce = [])
    (hValid : (Claim.valsetExecuted nonce valsetNonce).validate = .ok ())
    (hAll : accounts ~ (origin.blank.run events).registry.agents) :
    ((origin.blank.run events).claimAnswers
      ((Claim.valsetExecuted nonce valsetNonce).submittedBy accounts)).count (.ok .finalized) =
        if origin.params.threshold.numerator < origin.params.threshold.denominator then 1
        else 0 := by
  have hAgreed := agreed_run (b := origin.blank) Store.agreed_empty events
  have hKept : (origin.blank.run events).params = origin.params := params_run origin.blank events
  have hBallot := (ballot_of_agents hApart hValid hNext hFresh).perm (hAll.map _)
  have hNonempty : accounts ≠ [] := fun hNil => hSome (List.nil_perm.mp (hNil ▸ hAll))
  have hWins := wins_agents (.valsetExecuted nonce valsetNonce) hTotal hApart hSome hAll
  rw [count_finalized hAgreed hNonempty hBallot ⟨_, .valset⟩, ← hKept]
  exact if_congr hWins rfl rfl

/-- Under a threshold of two thirds the claim of both validators is final with the second vote. -/
theorem unanimity_of_unequalPair :
    let b := (default : Bridge).blank.run unequalPair
    b.registry.agents = [⟨.ofNat 20 2⟩, ⟨.ofNat 20 4⟩] ∧
    (b.claimAnswers ((Claim.valsetExecuted ⟨1⟩ ⟨1⟩).submittedBy
      [⟨.ofNat 20 4⟩, ⟨.ofNat 20 2⟩])).count (.ok .finalized) = 1 := by
  have hAgents : ((default : Bridge).blank.run unequalPair).registry.agents =
      [⟨.ofNat 20 2⟩, ⟨.ofNat 20 4⟩] := rfl
  refine ⟨hAgents, (unanimity_run default unequalPair ⟨1⟩ ⟨1⟩ _ (by rw [hAgents]; nofun) (by decide)
    (by decide) rfl rfl rfl ?_).trans (if_pos (by decide))⟩
  rw [hAgents]
  exact .swap ..

/-- A bridge whose threshold is one. -/
def wholePower : Bridge :=
  { (default : Bridge) with params := { Params.default with threshold := ⟨1, 1⟩ } }

/-- **Never final.** The threshold one is valid, and under it the same claim of both validators that
have power is accepted twice and does not become final. -/
theorem unanimity_without_end :
    let b := wholePower.blank.run unequalPair
    let claim := Claim.valsetExecuted ⟨1⟩ ⟨1⟩
    wholePower.params.validate = .ok () ∧
    b.registry.agents = [⟨.ofNat 20 2⟩, ⟨.ofNat 20 4⟩] ∧ b.registry.exactPower = 4 ∧
    b.registry.AgentsApart ∧ b.store.claimCursor .valsetExecuted = .zero ∧
    b.store.attestationsAt .valsetExecuted ⟨1⟩ = [] ∧ claim.validate = .ok () ∧
    b.claimAnswers (claim.submittedBy b.registry.agents) = [.ok .accepted, .ok .accepted] := by
  intro b claim
  have hAnswers : b.claimAnswers (claim.submittedBy b.registry.agents) =
      [.ok .accepted, .ok .accepted] := by
    decide +kernel
  exact ⟨by decide, rfl, rfl, by decide, rfl, rfl, rfl, hAnswers⟩

end Bridge

end TokenBridge

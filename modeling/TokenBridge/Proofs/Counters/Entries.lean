import Mathlib.Data.List.Count
import TokenBridge.Proofs.Bridge.Parallel
import TokenBridge.Proofs.Claims.Equivocations
import TokenBridge.Proofs.Confirmations.Turns
import TokenBridge.Proofs.Withdrawals.Custody

/-!
# What is counted

A message that is counted and the answer to it make up an exchange, and the exchange alone tells
what is counted for it (`Exchange.entries`). Three things that are counted leave a mark outside the
counters too: a finalized claim moves a cursor, an equivocation is reported, and a batch takes a
nonce. The entries of a run move the counters and these marks alike (`Entered`).

* `exchanges`: the exchanges of a run;
* `Judged.entered`, `entered_after`: what a claim and what an event enters;
* `entered_run`: what a run enters.
-/

namespace TokenBridge

namespace SlashingSignal

/-- Whether a report is about two different claims at one nonce. -/
def isEquivocation : SlashingSignal → Bool
  | .equivocation .. => true
  | .missedConfirmation .. => false

def equivocations (signals : List SlashingSignal) : Nat :=
  signals.countP isEquivocation

theorem equivocations_append (signals new : List SlashingSignal) :
    equivocations (signals ++ new) = equivocations signals + equivocations new :=
  List.countP_append

end SlashingSignal

namespace Counter

/-- Whether what is counted leaves a mark outside the counters. -/
def isMarked : Counter → Bool
  | .finalized _ => true
  | .equivocation => true
  | .batchBuilt => true
  | _ => false

theorem count_of_unmarked {counter other : Counter} (h : counter.isMarked = false)
    (hOther : other.isMarked = true) : [counter].count other = 0 := by
  rw [List.count_singleton]
  refine if_neg fun hSame => ?_
  rw [beq_iff_eq.mp hSame, hOther] at h
  cases h

end Counter

theorem Counters.bump_apply (counters : Counters) (counter other : Counter) :
    counters.bump counter other = counters other + [counter].count other := by
  rw [bump, List.count_singleton]
  by_cases hSame : other = counter
  · rw [if_pos hSame, if_pos (beq_iff_eq.mpr hSame.symm)]
  · rw [if_neg hSame, if_neg fun h => hSame (beq_iff_eq.mp h).symm, Nat.add_zero]

/-! ## Exchanges -/

/-- A message that is counted, with the answer to it or its refusal. -/
inductive Exchange where
  | claim (kind : ClaimKind) (answer : Except BridgeError ClaimOutcome)
  | confirm (stream : ConfirmStream) (answer : Except BridgeError ConfirmOutcome)
  | batch (answer : Except BridgeError Batch)

/-- What is counted for the outcome of a claim besides the outcome itself. -/
def ClaimOutcome.incidents (kind : ClaimKind) : ClaimOutcome → List Counter
  | .finalized => [.finalized kind]
  | .equivocation => [.equivocation]
  | _ => []

/-- What is counted for an exchange. -/
def Exchange.entries : Exchange → List Counter
  | .claim kind (.ok outcome) => outcome.incidents kind ++ [.submitted outcome]
  | .claim _ (.error refusal) => [.rejected refusal.reason]
  | .confirm .valset (.ok .stored) => [.valsetConfirmed]
  | .confirm (.batch _) (.ok .stored) => [.batchConfirmed]
  | .confirm _ (.ok .duplicate) => []
  | .confirm _ (.error _) => []
  | .batch (.ok _) => [.batchBuilt]
  | .batch (.error _) => []

namespace Bridge

/-- The exchange that an event is, if it is one. -/
def exchange? (b : Bridge) : Event → Option Exchange
  | .message (.claim orchestrator claim) =>
    some (.claim claim.kind (answer (submitClaim orchestrator claim) b))
  | .message (.confirmValset orchestrator nonce signature) =>
    some (.confirm .valset (answer (confirmValset orchestrator nonce signature) b))
  | .message (.confirmBatch orchestrator contract nonce signature) =>
    some (.confirm (.batch contract)
      (answer (confirmBatch orchestrator contract nonce signature) b))
  | .message (.buildBatch contract) => some (.batch (answer (buildBatch contract) b))
  | _ => none

def exchanges (b : Bridge) : List Event → List Exchange
  | [] => []
  | event :: events => (b.exchange? event).toList ++ (b.after event).exchanges events

/-- The counters move by some entries, and so do the marks outside the counters. -/
structure Entered (b : Bridge) (entries : List Counter) (b' : Bridge) : Prop where
  counters : ∀ counter, b'.counters counter = b.counters counter + entries.count counter
  cursors : ∀ kind, (b'.store.claimCursor kind).toNat =
    (b.store.claimCursor kind).toNat + entries.count (.finalized kind)
  reports : SlashingSignal.equivocations b'.signals =
    SlashingSignal.equivocations b.signals + entries.count .equivocation
  batches : b'.store.lastBatchNonce.toNat =
    b.store.lastBatchNonce.toNat + entries.count .batchBuilt

variable {b m b' : Bridge} {entries later : List Counter} {validator : ValidatorAddress}
  {power : UInt64} {claim : Claim} {outcome : ClaimOutcome} {a : Attestation}

/-! ## Composition -/

theorem Entered.trans (h : Entered b entries m) (hLater : Entered m later b') :
    Entered b (entries ++ later) b' where
  counters counter := by
    rw [hLater.counters, h.counters, List.count_append, Nat.add_assoc]
  cursors kind := by
    rw [hLater.cursors, h.cursors, List.count_append, Nat.add_assoc]
  reports := by
    rw [hLater.reports, h.reports, List.count_append, Nat.add_assoc]
  batches := by
    rw [hLater.batches, h.batches, List.count_append, Nat.add_assoc]

/-- Where neither counters nor marks change, nothing is entered. -/
theorem entered_nil (hCounters : b'.counters = b.counters)
    (hCursors : b'.store.claimCursors = b.store.claimCursors)
    (hReports : SlashingSignal.equivocations b'.signals = SlashingSignal.equivocations b.signals)
    (hBatches : b'.store.lastBatchNonce = b.store.lastBatchNonce) : Entered b [] b' where
  counters counter := congrFun hCounters counter
  cursors kind := congrArg Nonce.toNat (Store.claimCursor_congr hCursors kind)
  reports := hReports
  batches := congrArg Nonce.toNat hBatches

theorem Entered.refl (b : Bridge) : Entered b [] b :=
  entered_nil rfl rfl rfl rfl

/-- What leaves no mark outside the counters is only counted, even where other parts of the store
change. -/
theorem entered_bump {counter : Counter} {store : Store} (hMarked : counter.isMarked = false)
    (hCursors : store.claimCursors = b.store.claimCursors)
    (hBatches : store.lastBatchNonce = b.store.lastBatchNonce) :
    Entered b [counter] { b with store, counters := b.counters.bump counter } where
  counters other := b.counters.bump_apply counter other
  cursors kind := by
    rw [Counter.count_of_unmarked hMarked rfl]
    exact congrArg Nonce.toNat (Store.claimCursor_congr hCursors kind)
  reports := by
    rw [Counter.count_of_unmarked hMarked rfl, Nat.add_zero]
  batches := by
    rw [Counter.count_of_unmarked hMarked rfl]
    exact congrArg Nonce.toNat hBatches

/-! ## Claims -/

theorem Enacted.entered (h : Enacted b claim b') : Entered b [] b' := by
  have hCursors := h.claimCursors_eq
  cases h with
  | credited => exact entered_nil rfl rfl rfl rfl
  | @batch nonce batchNonce contract =>
    refine entered_nil rfl hCursors rfl ?_
    obtain ⟨_, _, _, hFrame⟩ := b.store.executeBatch_frame contract batchNonce
    rw [hFrame]
  | @valset nonce valsetNonce =>
    refine entered_nil rfl hCursors rfl ?_
    obtain ⟨_, _, _, hFrame⟩ := b.store.executeValset_frame valsetNonce
    rw [hFrame]

theorem entered_record (b : Bridge) (a : Attestation) : Entered b [] (b.record a) :=
  entered_nil rfl rfl rfl rfl

theorem entered_settle
    (hNext : a.claim.nonce.toNat = (b.store.claimCursor a.claim.kind).toNat + 1) :
    Entered b [.finalized a.claim.kind] (b.settle a) where
  counters other := b.counters.bump_apply _ other
  cursors kind := by
    have hCursor : (b.settle a).store.claimCursor kind =
        if kind = a.claim.kind then a.claim.nonce else b.store.claimCursor kind :=
      Store.claimCursor_insert rfl kind
    rw [hCursor, List.count_singleton]
    by_cases hKind : kind = a.claim.kind
    · rw [if_pos hKind, if_pos (beq_iff_eq.mpr (congrArg Counter.finalized hKind.symm)), hNext,
        hKind]
    · rw [if_neg hKind, Nat.add_eq_left.mpr]
      exact if_neg fun h => hKind (Counter.finalized.inj (beq_iff_eq.mp h)).symm
  reports := rfl
  batches := rfl

theorem entered_flag (b : Bridge) (a : Attestation) (validator : ValidatorAddress)
    (first : Digest) : Entered b [.equivocation] (b.flag a validator first) where
  counters other := b.counters.bump_apply _ other
  cursors _ := rfl
  reports := SlashingSignal.equivocations_append _ _
  batches := rfl

/-- A claim whose tally becomes final moves the cursor of its kind. -/
theorem Amended.entered (hFiled : b.store.Filed) (hAmended : Amended b validator power claim a)
    (hNext : following (b.store.claimCursor claim.kind) = .ok claim.nonce)
    (hEnacted : Enacted b a.claim m) : Entered b [.finalized claim.kind] (m.settle a) := by
  have hKind := hAmended.kind_eq hFiled
  have hSettled : Entered m [.finalized a.claim.kind] (m.settle a) := by
    refine entered_settle ?_
    rw [Store.claimCursor_congr hEnacted.claimCursors_eq, hKind, hAmended.nonce_eq hFiled]
    exact following_eq_ok hNext
  rw [hKind] at hSettled
  exact hEnacted.entered.trans hSettled

/-- What is counted where a claim is judged, its outcome apart. -/
theorem Judged.entered (hFiled : b.store.Filed)
    (h : Judged b validator power claim outcome b') :
    Entered b (outcome.incidents claim.kind) b' := by
  cases h with
  | accepted => exact entered_record b _
  | finalized hNext hNew hFresh hOpen hMet hEnacted =>
    exact Amended.entered hFiled (.voted hNew hFresh hOpen) hNext hEnacted
  | resumed hNext hPrior hSame hOpen hMet hEnacted =>
    exact (Amended.kept : Amended b validator power claim _).entered hFiled hNext hEnacted
  | repeated => exact .refl _
  | contradicted => exact entered_flag b _ _ _
  | lateRepeated => exact .refl _
  | lateContradicted => exact entered_flag b _ _ _
  | late =>
    -- either way the claim is put on record, and only its outcome is counted
    by_cases hFinal : (b.tally claim).finalized = true
    · rw [if_pos hFinal]
      exact entered_record b _
    · rw [if_neg hFinal]
      exact entered_record b _

/-! ## Events -/

theorem equivocations_missed (b : Bridge) (stream : ConfirmStream) (nonce : Nonce)
    (confirmed : ValidatorAddress → Bool) :
    SlashingSignal.equivocations (b.missed stream nonce confirmed) = 0 := by
  rw [SlashingSignal.equivocations, List.countP_eq_zero, missed]
  intro signal hMem
  obtain ⟨validator, -, rfl⟩ := List.mem_map.mp hMem
  exact Bool.false_ne_true

/-- Missed confirmations are reported without being counted. -/
theorem entered_report (stream : ConfirmStream) (nonce : Nonce)
    (confirmed : ValidatorAddress → Bool) :
    Entered b [] { b with signals := b.signals ++ b.missed stream nonce confirmed } := by
  refine entered_nil rfl rfl ?_ rfl
  rw [SlashingSignal.equivocations_append, equivocations_missed, Nat.add_zero]

theorem entered_takeBatch {batch : Batch}
    (hNext : batch.nonce.toNat = b.store.lastBatchNonce.toNat + 1) :
    Entered b [.batchBuilt]
      { b with store := b.store.takeBatch batch, counters := b.counters.bump .batchBuilt } where
  counters other := b.counters.bump_apply _ other
  cursors kind := by
    rw [Store.takeBatch_eq]
    rfl
  reports := rfl
  batches := by
    rw [Store.takeBatch_eq]
    exact hNext

theorem entered_claim (hFiled : b.store.Filed) (orchestrator : AccountAddress) (claim : Claim) :
    Entered b (Exchange.claim claim.kind (answer (submitClaim orchestrator claim) b)).entries
      (left (submitClaim orchestrator claim) b) := by
  rw [answer, left]
  cases h : submitClaim orchestrator claim b with
  | ok outcome b' =>
    obtain ⟨m, hJudge, rfl⟩ := submitClaim_eq_ok h
    obtain ⟨validator, power, -, -, hJudged⟩ := judge_eq_ok hJudge
    exact (hJudged.entered hFiled).trans (entered_bump rfl rfl rfl)
  | error refusal b' =>
    rw [submitClaim_eq_error h]
    exact entered_bump rfl rfl rfl

theorem clean_confirmOn (orchestrator : AccountAddress) (stream : ConfirmStream) (nonce : Nonce)
    (signature : List UInt8) : Clean (confirmOn orchestrator stream nonce signature) := by
  cases stream with
  | valset => exact clean_confirmValset orchestrator nonce signature
  | batch contract => exact clean_confirmBatch orchestrator contract nonce signature

theorem entered_confirmOn (b : Bridge) (orchestrator : AccountAddress) (stream : ConfirmStream)
    (nonce : Nonce) (signature : List UInt8) :
    Entered b
      (Exchange.confirm stream (answer (confirmOn orchestrator stream nonce signature) b)).entries
      (left (confirmOn orchestrator stream nonce signature) b) := by
  rw [answer, left]
  cases h : confirmOn orchestrator stream nonce signature b with
  | ok outcome b' =>
    cases stream with
    | valset =>
      cases handled_confirmValset h with
      | valsetReconfirmed => exact .refl _
      | valsetConfirmed => exact entered_bump rfl rfl rfl
    | batch contract =>
      cases handled_confirmBatch h with
      | batchReconfirmed => exact .refl _
      | batchConfirmed => exact entered_bump rfl rfl rfl
  | error refusal b' =>
    rw [clean_confirmOn orchestrator stream nonce signature h]
    cases stream with
    | _ => exact .refl b

theorem entered_buildBatch (b : Bridge) (contract : EthAddress) :
    Entered b (Exchange.batch (answer (buildBatch contract) b)).entries
      (left (buildBatch contract) b) := by
  rw [answer, left]
  cases h : buildBatch contract b with
  | ok batch b' =>
    cases handled_buildBatch h with
    | built hContract hPool hAnchor hAnchorHash hNonce hMake hHash =>
      refine entered_takeBatch ?_
      rw [(Batch.make_eq_ok hMake).1]
      exact following_eq_ok hNonce
  | error refusal b' =>
    rw [clean_buildBatch contract h]
    exact .refl b

theorem entered_of_handled {message : Message} {reply : Reply}
    (hNone : b.exchange? (.message message) = none) (h : Handled b message reply b') :
    Entered b [] b' := by
  cases h with
  | claimed => cases hNone
  | valsetReconfirmed => cases hNone
  | valsetConfirmed => cases hNone
  | batchReconfirmed => cases hNone
  | batchConfirmed => cases hNone
  | built => cases hNone
  | valsetReported hValset hSignals =>
    rw [hSignals]
    exact entered_report _ _ _
  | batchReported hBatch hSignals =>
    rw [hSignals]
    exact entered_report _ _ _
  | _ => exact entered_nil rfl rfl rfl rfl

/-- A message outside the exchanges is not counted, whether it is refused or not. -/
theorem entered_of_message {message : Message}
    (hNone : b.exchange? (.message message) = none) :
    Entered b [] (b.after (.message message)) := by
  rw [after, left]
  cases h : handle message b with
  | ok reply b' => exact entered_of_handled hNone (handled_of_handle h)
  | error refusal b' =>
    rw [handle_eq_error h]
    cases message with
    | claim => cases hNone
    | _ => exact entered_nil rfl rfl rfl rfl

theorem entered_of_staking {change : Staking} (h : Step b (.staking change) b') :
    Entered b [] b' := by
  cases h with
  | staked => exact entered_nil rfl rfl rfl rfl
  | unstaked => exact .refl _

/-- **What an event enters.** -/
theorem entered_after (hFiled : b.store.Filed) (event : Event) :
    Entered b ((b.exchange? event).toList.flatMap Exchange.entries) (b.after event) := by
  cases event with
  | staking change => exact entered_of_staking (step_after b (.staking change))
  | message message =>
    cases message with
    | claim orchestrator claim =>
      rw [exchange?, Option.toList_some, List.flatMap_singleton, after_claim]
      exact entered_claim hFiled orchestrator claim
    | confirmValset orchestrator nonce signature =>
      rw [exchange?, Option.toList_some, List.flatMap_singleton, after, handle, left_map]
      exact entered_confirmOn b orchestrator .valset nonce signature
    | confirmBatch orchestrator contract nonce signature =>
      rw [exchange?, Option.toList_some, List.flatMap_singleton, after, handle, left_map]
      exact entered_confirmOn b orchestrator (.batch contract) nonce signature
    | buildBatch contract =>
      rw [exchange?, Option.toList_some, List.flatMap_singleton, after, handle, left_map]
      exact entered_buildBatch b contract
    | _ => exact entered_of_message rfl

/-- **What a run enters.** -/
theorem entered_run (hFiled : b.store.Filed) (events : List Event) :
    Entered b ((b.exchanges events).flatMap Exchange.entries) (b.run events) := by
  -- that tallies stand under their own keys is what makes a claim move the cursor of its own kind
  induction events generalizing b with
  | nil => exact .refl _
  | cons event events ih =>
    rw [exchanges, List.flatMap_append]
    exact (entered_after hFiled event).trans (ih (filed_step hFiled (step_after b event)))

end Bridge

end TokenBridge

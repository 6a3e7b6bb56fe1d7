import Mathlib.Algebra.BigOperators.Group.List.Basic
import TokenBridge.Proofs.Counters.Entries

/-!
# Counters against the state

In a run that starts from nothing the counters are told by the state and by the answers: they were
never moved without the state being moved too, nor the state without them.

* `Counters.mem_report`: a report tells every counter;
* `sum_entries`: counters that are moved once in the exchanges of some sort count these exchanges;
* `Exchange.count_submitted`, `Exchange.sum_finalized`, ...: which counter counts which exchanges;
* `countP_exchanges`: every claim is an exchange;
* `reconciliation_run`: the counters after a run.
-/

namespace TokenBridge

/-! ## Names -/

namespace Counter

theorem mem_all (counter : Counter) : counter ∈ all := by
  cases counter with
  | submitted outcome => cases outcome <;> decide
  | rejected reason => cases reason <;> decide
  | finalized kind => cases kind <;> decide
  | _ => decide

theorem name_injective : Function.Injective name := by
  have hNodup : (all.map name).Nodup := by
    decide +kernel
  exact fun c d h => List.inj_on_of_nodup_map hNodup (mem_all c) (mem_all d) h

/-- The counter of what is stored on a stream of this kind. -/
def confirmations : ConfirmStream → Counter
  | .valset => .valsetConfirmed
  | .batch _ => .batchConfirmed

theorem name_confirmations (stream : ConfirmStream) :
    (confirmations stream).name = labelled "peggy_confirmations_total" stream.label := by
  cases stream <;> rfl

end Counter

/-- A report tells every counter that is not zero, under its name. -/
theorem Counters.mem_report {counters : Counters} {counter : Counter} {n : Nat} :
    (counter.name, n) ∈ counters.report ↔ n = counters counter ∧ n ≠ 0 := by
  rw [report, List.mem_filter, List.mem_map, bne_iff_ne]
  refine and_congr_left fun _ => ⟨?_, ?_⟩
  · rintro ⟨other, -, hEntry⟩
    obtain ⟨hName, hCount⟩ := Prod.mk.inj hEntry
    rw [← hCount, Counter.name_injective hName]
  · rintro rfl
    exact ⟨counter, counter.mem_all, rfl⟩

/-! ## Which exchanges are counted -/

namespace Exchange

/-- Whether the exchange is a claim with a certain outcome. -/
def comesTo (outcome : ClaimOutcome) : Exchange → Bool
  | .claim _ (.ok reached) => reached == outcome
  | _ => false

/-- Whether the exchange stores a confirmation on a stream of the kind of a given one. -/
def stores (stream : ConfirmStream) : Exchange → Bool
  | .confirm other (.ok .stored) => other.label == stream.label
  | _ => false

def isClaim : Exchange → Bool
  | .claim .. => true
  | _ => false

/-- Counters of which one is moved, once, in the exchanges of some sort, and none in any other
exchange, count these exchanges together. -/
theorem sum_entries {sort : Exchange → Bool} (counters : List Counter)
    (h : ∀ x : Exchange,
      (counters.map fun counter => x.entries.count counter).sum = if sort x then 1 else 0)
    (l : List Exchange) :
    (counters.map fun counter => (l.flatMap entries).count counter).sum = l.countP sort := by
  induction l with
  | nil => simp
  | cons x l ih =>
    simp only [List.flatMap_cons, List.count_append, List.sum_map_add]
    rw [h, ih, List.countP_cons, Nat.add_comm]

theorem count_entries {sort : Exchange → Bool} {counter : Counter}
    (h : ∀ x : Exchange, x.entries.count counter = if sort x then 1 else 0) (l : List Exchange) :
    (l.flatMap entries).count counter = l.countP sort := by
  simpa using sum_entries [counter] (by simpa using h) l

theorem count_submitted (outcome : ClaimOutcome) (l : List Exchange) :
    (l.flatMap entries).count (.submitted outcome) = l.countP (comesTo outcome) := by
  refine count_entries (fun x => ?_) l
  fun_cases entries x with
  | case1 kind reached => cases reached <;> cases outcome <;> rfl
  | _ => rfl

theorem count_equivocation (l : List Exchange) :
    (l.flatMap entries).count .equivocation = l.countP (comesTo .equivocation) := by
  refine count_entries (fun x => ?_) l
  fun_cases entries x with
  | case1 kind reached => cases reached <;> rfl
  | _ => rfl

theorem count_confirmations (stream : ConfirmStream) (l : List Exchange) :
    (l.flatMap entries).count (.confirmations stream) = l.countP (stores stream) := by
  refine count_entries (fun x => ?_) l
  fun_cases entries x with
  | case1 kind reached => cases reached <;> cases stream <;> rfl
  | _ => cases stream <;> rfl

theorem sum_finalized (l : List Exchange) :
    (ClaimKind.all.map fun kind => (l.flatMap entries).count (.finalized kind)).sum =
      l.countP (comesTo .finalized) := by
  refine sum_entries (ClaimKind.all.map .finalized) (fun x => ?_) l
  fun_cases entries x with
  | case1 kind reached => cases reached <;> cases kind <;> rfl
  | _ => rfl

/-- Every claim is counted once, by its outcome or by the reason of its refusal. -/
theorem sum_verdicts (l : List Exchange) :
    (ClaimOutcome.all.map fun outcome => (l.flatMap entries).count (.submitted outcome)).sum +
      (Reason.all.map fun reason => (l.flatMap entries).count (.rejected reason)).sum =
        l.countP isClaim := by
  rw [← List.sum_append]
  refine sum_entries (ClaimOutcome.all.map .submitted ++ Reason.all.map .rejected) (fun x => ?_) l
  fun_cases entries x with
  | case1 kind outcome => cases outcome <;> rfl
  | case2 kind refusal => cases refusal <;> rfl
  | _ => rfl

end Exchange

def Event.isClaim : Event → Bool
  | .message (.claim ..) => true
  | _ => false

namespace Bridge

theorem isClaim_exchange? (b : Bridge) (event : Event) :
    (b.exchange? event).any Exchange.isClaim = event.isClaim := by
  cases event with
  | staking change => rfl
  | message message => cases message <;> rfl

/-- Every claim is an exchange. -/
theorem countP_exchanges (b : Bridge) (events : List Event) :
    (b.exchanges events).countP Exchange.isClaim = events.countP Event.isClaim := by
  induction events generalizing b with
  | nil => rfl
  | cons event events ih =>
    rw [exchanges, List.countP_append, ih, List.countP_cons, ← isClaim_exchange? b event]
    cases b.exchange? event with
    | none => simp
    | some x => simp [List.countP_cons, Nat.add_comm]

/-! ## Runs from nothing -/

/-- The same bridge in the same surroundings, but with nothing stored, reported or counted yet. -/
def fresh (b : Bridge) : Bridge :=
  { b.blank with signals := [], counters := .zero }

theorem fresh_of_launch {params : Params} {b : Bridge} (h : launch params = .ok b) :
    b.fresh = b := by
  obtain ⟨_, -, hLaunched⟩ := checked_bind_eq_ok.mp h
  cases hLaunched
  rfl

/-- **The counters after a run.** Let nothing have been stored, reported or counted at first. After
any events the finalized attestations of each kind are counted by its cursor, and the claims that
were answered so by all cursors together. The equivocations are the claims that were answered so,
and as many reports about equivocations were submitted. The batches are counted by the last nonce of
a batch, and the confirmations on the streams of either kind are the requests there that were
answered with `stored`. Every claim is counted once, by its outcome or by the reason of its
refusal. -/
theorem reconciliation_run (origin : Bridge) (events : List Event) :
    let b := origin.fresh.run events
    (∀ kind, b.counters (.finalized kind) = (b.store.claimCursor kind).toNat) ∧
    b.counters (.submitted .finalized) =
      (ClaimKind.all.map fun kind => (b.store.claimCursor kind).toNat).sum ∧
    b.counters .equivocation = b.counters (.submitted .equivocation) ∧
    b.counters .equivocation = SlashingSignal.equivocations b.signals ∧
    b.counters .batchBuilt = b.store.lastBatchNonce.toNat ∧
    (∀ stream, b.counters (.confirmations stream) =
      (origin.fresh.exchanges events).countP (Exchange.stores stream)) ∧
    (ClaimOutcome.all.map fun outcome => b.counters (.submitted outcome)).sum +
      (Reason.all.map fun reason => b.counters (.rejected reason)).sum =
        events.countP Event.isClaim := by
  intro b
  have hFiled : origin.fresh.store.Filed := filed_blank origin
  obtain ⟨hCounters, hCursors, hReports, hBatches⟩ := entered_run hFiled events
  -- at first all counters and marks are zero, so that the entries of the run are all there is
  have hCount (counter : Counter) : b.counters counter =
      ((origin.fresh.exchanges events).flatMap Exchange.entries).count counter :=
    (hCounters counter).trans (Nat.zero_add _)
  have hCursor (kind : ClaimKind) :
      (b.store.claimCursor kind).toNat = b.counters (.finalized kind) :=
    ((hCursors kind).trans (Nat.zero_add _)).trans (hCount _).symm
  refine ⟨fun kind => (hCursor kind).symm, ?_, ?_, ?_, ?_, fun stream => ?_, ?_⟩
  · simp only [hCursor, hCount]
    rw [Exchange.count_submitted, Exchange.sum_finalized]
  · rw [hCount, hCount, Exchange.count_equivocation, Exchange.count_submitted]
  · rw [hCount]
    exact (hReports.trans (Nat.zero_add _)).symm
  · rw [hCount]
    exact (hBatches.trans (Nat.zero_add _)).symm
  · rw [hCount, Exchange.count_confirmations]
  · simp only [hCount]
    rw [Exchange.sum_verdicts, countP_exchanges]

/-- A validator settles a deposit alone, and then claims another amount at the same nonce. -/
example :
    let deposit (amount : Amount) : Event :=
      .message (.claim ⟨.ofNat 20 2⟩
        (.deposit ⟨1⟩ ⟨amount, "USD", ⟨.ofNat 20 7⟩⟩ ⟨.ofNat 20 8⟩ ⟨.ofNat 20 9⟩))
    ((default : Bridge).fresh.run
      [.staking (.bond ⟨.ofNat 20 1⟩ 1 ⟨.ofNat 20 2⟩), deposit ⟨600, by decide⟩,
        deposit ⟨700, by decide⟩]).counters.report =
      [("peggy_claims_submitted_total\x7bfinalized\x7d", 1),
        ("peggy_claims_submitted_total\x7bequivocation\x7d", 1),
        ("peggy_attestations_finalized_total\x7bdeposit\x7d", 1),
        ("peggy_equivocations_total", 1)] := by
  decide +kernel

end Bridge

end TokenBridge

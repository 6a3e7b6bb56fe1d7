import Mathlib.Data.List.Count
import TokenBridge.Bridge.Genesis
import TokenBridge.Proofs.Bridge.Parallel
import TokenBridge.Proofs.Bridge.Steps

/-!
# Refusals

A handler keeps the state that it has reached when it refuses, so that a write before a failing step
would be seen. All handlers check first: what is refused leaves no trace, whatever state the bridge
is in. This holds of every message and of the loading of documents; only a refused claim is counted.
-/

namespace TokenBridge.Bridge

theorem clean_initGenesis (g : Genesis) : Clean (initGenesis g) :=
  Clean.bind (reads_check _) fun _ => ((sure_write _).bind fun _ => sure_modify _).clean

/-- **Refusals.** A refused message leaves store, balances, reports, settings and validators as they
were, in any state of the bridge, and of the counts it changes that of refused claims only. A refused
document changes nothing at all. -/
theorem refusal_leaves_no_trace (b : Bridge) :
    (∀ message refusal b', handle message b = .error refusal b' →
      b'.store = b.store ∧ b'.ledger = b.ledger ∧ b'.signals = b.signals ∧ b'.params = b.params ∧
      b'.registry = b.registry ∧ b'.counters = b.refusalCounters message refusal) ∧
    (∀ g refusal b', initGenesis g b = .error refusal b' → b' = b) := by
  refine ⟨fun message refusal b' h => ?_, fun g refusal b' h => clean_initGenesis g h⟩
  rw [handle_eq_error h]
  exact ⟨rfl, rfl, rfl, rfl, rfl, rfl⟩

/-! ## A bridge with records, balances and reports -/

/-- Some units of a token under a symbol. -/
def coins (symbol : String) (amount : Nat) : Token :=
  ⟨(Amount.ofNat? amount).getD .zero, symbol, ⟨.ofNat 20 7⟩⟩

/-- A deposit of some units to one account. -/
def depositOf (nonce : Nonce) (amount : Nat) : Claim :=
  .deposit nonce ⟨(Amount.ofNat? amount).getD .zero, "USD", ⟨.ofNat 20 7⟩⟩ ⟨.ofNat 20 8⟩
    ⟨.ofNat 20 9⟩

/-- One validator has all the power. -/
def loneValidator : List Event :=
  [.staking (.bond ⟨.ofNat 20 1⟩ 1 ⟨.ofNat 20 2⟩)]

/-- The only validator settles a deposit, of which some is sent back, and then contradicts itself. -/
def contradicted : List Event :=
  loneValidator ++ [.message (.claim ⟨.ofNat 20 2⟩ (depositOf ⟨1⟩ 600)),
    .message (.send ⟨.ofNat 20 9⟩ ⟨.ofNat 20 10⟩ (coins "USD" 5) (coins "USD" 1)),
    .message (.claim ⟨.ofNat 20 2⟩ (depositOf ⟨1⟩ 700))]

/-- A transfer of more than the account has left. -/
def overdraft : Message :=
  .send ⟨.ofNat 20 9⟩ ⟨.ofNat 20 10⟩ (coins "USD" 594) (coins "USD" 1)

/-- A document of a bridge without an id. -/
def namelessGenesis : Genesis :=
  .blank { Params.default with bridgeId := "" }

/-- With a settled deposit, a waiting transfer, a balance and a report in place, an overdraft, a
claim out of turn and a document without an id are refused, and all of that stays. -/
theorem refusal_of_overdraft :
    let b := (default : Bridge).run contradicted
    (b.store.claimCursor .deposit = ⟨1⟩ ∧ b.store.attestations.values.length = 2 ∧
      b.store.transfers.values.map Transfer.id = [1] ∧ b.signals.length = 1 ∧
      b.ledger.balances.values.map Amount.toNat = [594]) ∧
    (∃ refusal b', handle overdraft b = .error refusal b' ∧ b'.store = b.store ∧
      b'.ledger = b.ledger ∧ b'.signals = b.signals ∧ b'.counters = b.counters) ∧
    (∃ b', handle (.claim ⟨.ofNat 20 2⟩ (depositOf ⟨3⟩ 1)) b = .error (.outOfSequence ⟨2⟩ ⟨3⟩) b' ∧
      b'.store = b.store ∧ b'.ledger = b.ledger ∧ b'.signals = b.signals ∧
      b'.counters = b.counters.bump (.rejected .outOfSequence)) ∧
    ∃ refusal b', initGenesis namelessGenesis b = .error refusal b' ∧ b' = b := by
  intro b
  have hRun : (b.store.claimCursor .deposit = ⟨1⟩ ∧ b.store.attestations.values.length = 2 ∧
      b.store.transfers.values.map Transfer.id = [1] ∧ b.signals.length = 1 ∧
      b.ledger.balances.values.map Amount.toNat = [594]) ∧
      answer (send ⟨.ofNat 20 9⟩ ⟨.ofNat 20 10⟩ (coins "USD" 594) (coins "USD" 1)) b =
        .error (.invalid (.insufficient (voucherDenom ⟨.ofNat 20 7⟩ "USD")
          (coins "USD" 594).amount (coins "USD" 595).amount)) ∧
      answer (submitClaim ⟨.ofNat 20 2⟩ (depositOf ⟨3⟩ 1)) b = .error (.outOfSequence ⟨2⟩ ⟨3⟩) := by
    decide +kernel
  obtain ⟨hState, hSend, hClaim⟩ := hRun
  have hOverdraft : handle overdraft b = .error _ _ := map_eq_error.mpr (eq_error_of_answer hSend)
  have hEarly : handle (.claim ⟨.ofNat 20 2⟩ (depositOf ⟨3⟩ 1)) b = .error _ _ :=
    map_eq_error.mpr (eq_error_of_answer hClaim)
  obtain ⟨refusal, hLoad⟩ : ∃ refusal, initGenesis namelessGenesis b = .error refusal b :=
    ⟨_, rfl⟩
  obtain ⟨hMessages, hDocuments⟩ := refusal_leaves_no_trace b
  obtain ⟨hStore, hLedger, hSignals, -, -, hCounters⟩ := hMessages _ _ _ hOverdraft
  obtain ⟨hStore', hLedger', hSignals', -, -, hCounters'⟩ := hMessages _ _ _ hEarly
  exact ⟨hState, ⟨_, _, hOverdraft, hStore, hLedger, hSignals, hCounters⟩,
    ⟨_, hEarly, hStore', hLedger', hSignals', hCounters'⟩, refusal, b, hLoad,
    hDocuments _ _ _ hLoad⟩

end TokenBridge.Bridge

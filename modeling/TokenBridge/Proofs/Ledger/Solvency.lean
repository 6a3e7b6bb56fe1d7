import TokenBridge.Proofs.Withdrawals.Custody

/-!
# Solvency

Vouchers are minted when a deposit is agreed on and burned when a transfer is sent, and at no other
time. So what an account holds of a token, together with what its kept transfers took from it, is
what it held at first and what the agreed deposits brought it.

* `balance_of_mint`, `balance_of_burn`: all balances after a credit and a debit;
* `debit`, `inTransit`: what kept transfers took from an account;
* `credit`, `credited`: what agreed deposits brought an account;
* `solvent_step`, `solvency_run`: the balance equation is kept.
-/

namespace TokenBridge

/-! ## Balances -/

theorem Amount.sub?_eq_some {a b c : Amount} (h : a.sub? b = some c) :
    c.toNat + b.toNat = a.toNat := by
  rw [sub?] at h
  by_cases hLe : b.toNat ≤ a.toNat
  · rw [if_pos hLe] at h
    cases h
    exact Nat.sub_add_cancel hLe
  · rw [if_neg hLe] at h
    cases h

namespace Ledger

variable {l l' : Ledger} {holder : AccountAddress} {amount : Amount} {unit : String}

theorem balance_setBalance (l : Ledger) (holder : AccountAddress) (unit : String)
    (amount : Amount) (account : AccountAddress) (denom : String) :
    (l.setBalance holder unit amount).balance account denom =
      if holder = account ∧ unit = denom then amount else l.balance account denom := by
  rw [balance, setBalance, Table.find?_insert]
  by_cases hSame : holder = account ∧ unit = denom
  · rw [if_pos hSame, if_pos (by rw [hSame.1, hSame.2]), Option.getD_some]
  · have hNe : (account, denom) ≠ (holder, unit) := by
      intro hEq
      cases hEq
      exact hSame ⟨rfl, rfl⟩
    rw [if_neg hSame, if_neg hNe, balance]

theorem balance_of_mint (h : l.mint holder amount unit = .ok l') (account : AccountAddress)
    (denom : String) :
    (l'.balance account denom).toNat =
      (l.balance account denom).toNat +
        if holder = account ∧ unit = denom then amount.toNat else 0 := by
  rw [mint] at h
  cases hSum : (l.balance holder unit).add? amount with
  | none =>
    rw [hSum] at h
    cases h
  | some sum =>
    rw [hSum] at h
    cases h
    rw [balance_setBalance]
    by_cases hSame : holder = account ∧ unit = denom
    · rw [if_pos hSame, if_pos hSame, Amount.add?_eq_some_iff.mp hSum, hSame.1, hSame.2]
    · rw [if_neg hSame, if_neg hSame, Nat.add_zero]

theorem balance_of_burn (h : l.burn holder amount unit = .ok l') (account : AccountAddress)
    (denom : String) :
    (l'.balance account denom).toNat +
        (if holder = account ∧ unit = denom then amount.toNat else 0) =
      (l.balance account denom).toNat := by
  rw [burn] at h
  cases hRest : (l.balance holder unit).sub? amount with
  | none =>
    rw [hRest] at h
    cases h
  | some rest =>
    rw [hRest] at h
    cases h
    rw [balance_setBalance]
    by_cases hSame : holder = account ∧ unit = denom
    · rw [if_pos hSame, if_pos hSame, Amount.sub?_eq_some hRest, hSame.1, hSame.2]
    · rw [if_neg hSame, if_neg hSame, Nat.add_zero]

end Ledger

/-! ## What transfers took -/

/-- What a transfer took from an account: amount and fee, from the sender's vouchers of the
token. -/
def Transfer.debit (tx : Transfer) (account : AccountAddress) (denom : String) : Nat :=
  if tx.sender = account ∧ voucherDenom tx.amount.contract tx.amount.symbol = denom then
    tx.amount.amount.toNat + tx.fee.amount.toNat
  else 0

/-- What kept transfers took from an account. -/
def Store.inTransit (s : Store) (account : AccountAddress) (denom : String) : Nat :=
  (s.custody.map fun tx => tx.debit account denom).sum

theorem Store.inTransit_of_perm {s s' : Store} (h : s'.custody.Perm s.custody)
    (account : AccountAddress) (denom : String) :
    s'.inTransit account denom = s.inTransit account denom :=
  (h.map _).sum_nat

/-! ## What deposits brought -/

/-- What a claim brings an account: the deposit, in vouchers of the token. -/
def Claim.credit (account : AccountAddress) (denom : String) : Claim → Nat
  | .deposit _ token _ receiver =>
    if receiver = account ∧ voucherDenom token.contract token.symbol = denom then
      token.amount.toNat
    else 0
  | .batchExecuted .. => 0
  | .valsetExecuted .. => 0

/-- What a tally brings an account once it is final. -/
def Attestation.credit (a : Attestation) (account : AccountAddress) (denom : String) : Nat :=
  if a.finalized then a.claim.credit account denom else 0

/-- What all final tallies brought an account. -/
def Store.credited (s : Store) (account : AccountAddress) (denom : String) : Nat :=
  (s.attestations.values.map fun a => a.credit account denom).sum

/-- Storing a tally replaces what was brought under its key. -/
theorem Store.credited_insert {s s' : Store} {a : Attestation}
    (hTallies : s'.attestations = s.attestations.insert a.key a) (account : AccountAddress)
    (denom : String) :
    s'.credited account denom +
        ((s.attestations.find? a.key).map fun old => old.credit account denom).getD 0 =
      a.credit account denom + s.credited account denom := by
  have hNew := ((Table.perm_values_insert s.attestations a.key a).map
    fun a => a.credit account denom).sum_nat
  rw [List.map_cons, List.sum_cons] at hNew
  rw [credited, hTallies, hNew, credited]
  cases hFound : s.attestations.find? a.key with
  | none =>
    rw [Table.erase_of_find?_eq_none hFound, Option.map_none, Option.getD_none, Nat.add_zero]
  | some old =>
    have hOld := ((Table.perm_values_of_find? hFound).map
      fun a => a.credit account denom).sum_nat
    rw [List.map_cons, List.sum_cons] at hOld
    rw [hOld, Option.map_some, Option.getD_some]
    omega

namespace Bridge

variable {b b' : Bridge} {event : Event} {validator : ValidatorAddress} {power : UInt64}
  {claim : Claim} {outcome : ClaimOutcome} {a : Attestation}

/-- A tally that is not stored has brought nothing. -/
theorem credit_tally (hFiled : b.store.Filed) (claim : Claim) (account : AccountAddress)
    (denom : String) :
    ((b.store.attestations.find? (Attestation.start claim).key).map
      fun old => old.credit account denom).getD 0 = (b.tally claim).credit account denom := by
  rw [tally_eq hFiled]
  cases b.store.attestations.find? (Attestation.start claim).key with
  | none => rfl
  | some old => rfl

/-- What a claim makes of a tally has brought as much as before. -/
theorem Amended.credit_eq (h : Amended b validator power claim a) (account : AccountAddress)
    (denom : String) : a.credit account denom = (b.tally claim).credit account denom := by
  rw [Attestation.credit, Attestation.credit, h.finalized_eq, h.grows.claim_eq]

theorem Amended.credited_eq (hFiled : b.store.Filed) (h : Amended b validator power claim a)
    (hTallies : b'.store.attestations = b.store.attestations.insert a.key a)
    (account : AccountAddress) (denom : String) :
    b'.store.credited account denom = b.store.credited account denom := by
  have hInsert := Store.credited_insert hTallies account denom
  rw [h.key_eq hFiled, credit_tally hFiled, h.credit_eq] at hInsert
  omega

/-- A tally that becomes final brings what its claim says. -/
theorem Amended.credited_close (hFiled : b.store.Filed) (h : Amended b validator power claim a)
    (hOpen : a.finalized = false)
    (hTallies : b'.store.attestations = b.store.attestations.insert a.key a.close)
    (account : AccountAddress) (denom : String) :
    b'.store.credited account denom =
      b.store.credited account denom + a.claim.credit account denom := by
  have hInsert := Store.credited_insert (a := a.close) hTallies account denom
  have hKey : a.close.key = (Attestation.start claim).key :=
    (Attestation.key_close a).trans (h.key_eq hFiled)
  have hBefore : a.credit account denom = 0 := by
    rw [Attestation.credit, hOpen]
    rfl
  have hClose : a.close.credit account denom = a.claim.credit account denom := rfl
  rw [hKey, credit_tally hFiled, ← h.credit_eq, hBefore, hClose] at hInsert
  omega

/-- The effect of a claim on the balances is what the claim brings. -/
theorem Enacted.balance_eq (h : Enacted b claim b') (account : AccountAddress) (denom : String) :
    (b'.ledger.balance account denom).toNat =
      (b.ledger.balance account denom).toNat + claim.credit account denom := by
  cases h with
  | credited hMint => exact Ledger.balance_of_mint hMint account denom
  | batch => rfl
  | valset => rfl

/-! ## The balance equation -/

/-- What an account holds and what its transfers took is what it held at first and what deposits
brought it. -/
def Solvent (origin b : Bridge) (account : AccountAddress) (denom : String) : Prop :=
  (b.ledger.balance account denom).toNat + b.store.inTransit account denom =
    (origin.ledger.balance account denom).toNat + b.store.credited account denom

variable {origin : Bridge} {account : AccountAddress} {denom : String}

theorem solvent_judged (hFiled : b.store.Filed) (h : Solvent origin b account denom)
    (hJudged : Judged b validator power claim outcome b')
    (hTransit : b'.store.inTransit account denom = b.store.inTransit account denom) :
    Solvent origin b' account denom := by
  rw [Solvent] at h ⊢
  rcases hJudged.claims_cases with ⟨-, rfl⟩ | ⟨-, a, hAmended, hStore, hLedger, -⟩ |
    ⟨-, -, a, m, hAmended, hOpen, -, hEnacted, rfl⟩
  · exact h
  · have hTallies : b'.store.attestations = b.store.attestations.insert a.key a := by
      rw [hStore, Store.putAttestation]
    rw [hLedger, hTransit, hAmended.credited_eq hFiled hTallies, h]
  · have hTallies := (hEnacted.tables_settle (a := a)).1
    have hCredited := hAmended.credited_close hFiled hOpen hTallies account denom
    have hBalance : ((m.settle a).ledger.balance account denom).toNat =
        (b.ledger.balance account denom).toNat + a.claim.credit account denom :=
      hEnacted.balance_eq account denom
    rw [hTransit, hCredited, hBalance]
    omega

theorem solvent_queued {tx : Transfer} {total : Token} {ledger : Ledger}
    (hHoused : b.store.Housed) (h : Solvent origin b account denom)
    (hRoom : b.store.lastTransferId.toNat + 1 ≠ UInt64.size) (hId : tx.id = b.store.lastTransferId + 1)
    (hTotal : tx.amount.add tx.fee = .ok total)
    (hBurn : b.ledger.burn tx.sender total.amount
      (voucherDenom tx.amount.contract tx.amount.symbol) = .ok ledger) :
    Solvent origin { b with ledger, store := b.store.queue tx } account denom := by
  have hBalance := Ledger.balance_of_burn hBurn account denom
  rw [(Token.add_eq_ok_iff.mp hTotal).2.2] at hBalance
  have hNew : b.store.transfers.find? tx.id = none := hId ▸ hHoused.sheltered.find?_next hRoom
  have hTransit := ((Store.queue_perm hNew).map fun tx => tx.debit account denom).sum_nat
  rw [List.map_cons, List.sum_cons, Transfer.debit] at hTransit
  rw [Solvent, Store.inTransit] at h ⊢
  show (ledger.balance account denom).toNat + _ = _ + b.store.credited account denom
  rw [← h, hTransit]
  omega

theorem solvent_step (hFiled : b.store.Filed) (hHoused : b.store.Housed)
    (h : Solvent origin b account denom) (hStep : Step b event b') :
    Solvent origin b' account denom := by
  have hTransit : (∀ sender dest amount fee, event ≠ .message (.send sender dest amount fee)) →
      b'.store.inTransit account denom = b.store.inTransit account denom :=
    fun hOther => Store.inTransit_of_perm (custody_perm_of_step hHoused.sheltered hStep hOther) _ _
  cases hStep with
  | handled hHandled =>
    cases hHandled with
    | @claimed _ _ _ _ _ m hValid hSigner hJudged =>
      have hCustody := hTransit fun _ _ _ _ hEvent => by cases hEvent
      show Solvent origin m account denom
      exact solvent_judged hFiled h hJudged hCustody
    | queued hSender hRoom hValid hTotal hBurn =>
      exact solvent_queued hHoused h hRoom rfl hTotal hBurn
    | @built _ _ _ _ _ batch =>
      have hCustody := hTransit fun _ _ _ _ hEvent => by cases hEvent
      have hTallies : (b.store.takeBatch batch).attestations = b.store.attestations := by
        rw [Store.takeBatch_eq]
      rw [Solvent, Store.credited] at h ⊢
      rw [hCustody, hTallies]
      exact h
    | _ => exact h
  | _ => exact h

/-- **Solvency.** In a run from an empty store the balance of every account in every denomination,
together with the amounts and fees of its kept transfers, waiting or in batches, is its balance at
first together with the amounts of all deposits to it that were agreed on. -/
theorem solvency_run (origin : Bridge) (events : List Event) (account : AccountAddress)
    (denom : String) :
    let b := origin.blank.run events
    (b.ledger.balance account denom).toNat + b.store.inTransit account denom =
      (origin.ledger.balance account denom).toNat + b.store.credited account denom := by
  refine (run_induction (P := fun b => b.store.Filed ∧ b.store.Housed ∧
    Solvent origin b account denom) (fun b event h => ?_)
    ⟨filed_blank origin, Store.housed_empty, rfl⟩ events).2.2
  obtain ⟨hFiled, hHoused, hSolvent⟩ := h
  have hStep := step_after b event
  exact ⟨filed_step hFiled hStep, housed_step hHoused hStep,
    solvent_step hFiled hHoused hSolvent hStep⟩

end Bridge

end TokenBridge

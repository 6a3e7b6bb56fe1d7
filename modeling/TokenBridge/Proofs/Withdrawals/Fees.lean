import Mathlib.Algebra.Ring.Nat
import TokenBridge.Batch.Basic
import TokenBridge.Proofs.Bridge.Handling

/-!
# Sums of fees

Amounts of one asset can be added as long as the sum stays in range, and nothing else can. So the
fees of some transfers have a sum when the transfers are of the given contract, all fees are of one
asset, and the sum is in range.

* `Amount.add?_eq_some_iff`, `Token.add_eq_ok_iff`: two amounts;
* `Batch.sumFees_eq_ok_iff`, `Batch.sumFees_of_unlike`: many fees;
* `Batch.make_eq_ok_iff`: the batches that can be made.
-/

namespace TokenBridge

/-! ## Two amounts -/

theorem Amount.add?_eq_some_iff {a b c : Amount} :
    a.add? b = some c ↔ c.toNat = a.toNat + b.toNat := by
  rw [add?, ofNat?]
  constructor
  · intro h
    by_cases hRange : a.toNat + b.toNat < Nat.pow 256 32
    · rw [dif_pos hRange] at h
      cases h
      rfl
    · rw [dif_neg hRange] at h
      cases h
  · intro h
    have hRange : a.toNat + b.toNat < Nat.pow 256 32 := h ▸ c.isLt
    rw [dif_pos hRange]
    exact congrArg some (Amount.ext h.symm)

/-- An amount of the same asset as another one. -/
def Token.Like (t u : Token) : Prop :=
  t.contract = u.contract ∧ t.symbol = u.symbol

theorem Token.Like.eq {t u : Token} (h : t.Like u) (hAmount : t.amount.toNat = u.amount.toNat) :
    t = u := by
  obtain ⟨hContract, hSymbol⟩ := h
  cases t
  cases u
  cases hContract
  cases hSymbol
  exact congrArg (Token.mk · _ _) (Amount.ext hAmount)

theorem Token.sameAsset_iff {t u : Token} : t.sameAsset u = true ↔ u.Like t := by
  rw [sameAsset, Bool.and_eq_true, beq_iff_eq, beq_iff_eq, Like, eq_comm, eq_comm (a := t.symbol)]

theorem Token.add_eq_ok_iff {t u sum : Token} :
    t.add u = .ok sum ↔
      u.Like t ∧ sum.Like t ∧ sum.amount.toNat = t.amount.toNat + u.amount.toNat := by
  rw [add]
  by_cases hAsset : t.sameAsset u = true
  · have hLike := sameAsset_iff.mp hAsset
    rw [if_pos hAsset]
    constructor
    · intro h
      cases hSum : t.amount.add? u.amount with
      | none =>
        rw [hSum] at h
        cases h
      | some amount =>
        rw [hSum] at h
        cases h
        exact ⟨hLike, ⟨rfl, rfl⟩, Amount.add?_eq_some_iff.mp hSum⟩
    · rintro ⟨-, hSumLike, hSum⟩
      rw [Amount.add?_eq_some_iff.mpr hSum]
      exact congrArg Except.ok (Like.eq ⟨hSumLike.1.symm, hSumLike.2.symm⟩ rfl)
  · rw [if_neg hAsset]
    constructor
    · intro h
      cases h
    · exact fun ⟨hLike, _⟩ => absurd (sameAsset_iff.mpr hLike) hAsset

/-! ## Many fees -/

namespace Batch

variable {contract : EthAddress} {sum total : Token} {l : List Transfer}

/-- Fees have a sum if the transfers are of the contract, the fees of one asset, and the sum in
range. -/
theorem sumFees_eq_ok_iff :
    sumFees contract sum l = .ok total ↔
      (∀ tx ∈ l, tx.contract = contract ∧ tx.fee.Like sum) ∧ total.Like sum ∧
        total.amount.toNat = sum.amount.toNat + (l.map fun tx => tx.fee.amount.toNat).sum := by
  induction l generalizing sum with
  | nil =>
    rw [sumFees, Except.ok.injEq]
    constructor
    · rintro rfl
      exact ⟨fun _ hMem => absurd hMem List.not_mem_nil, ⟨rfl, rfl⟩, rfl⟩
    · exact fun ⟨_, hLike, hAmount⟩ => (hLike.eq hAmount).symm
  | cons first rest ih =>
    rw [sumFees, List.forall_mem_cons, List.map_cons, List.sum_cons]
    by_cases hForeign : first.contract ≠ contract
    · rw [if_pos hForeign]
      constructor
      · intro h
        cases h
      · exact fun ⟨⟨⟨hContract, _⟩, _⟩, _⟩ => absurd hContract hForeign
    · rw [if_neg hForeign]
      have hContract : first.contract = contract := not_not.mp hForeign
      constructor
      · intro h
        obtain ⟨more, hMore, hRest⟩ := Bridge.checked_bind_eq_ok.mp h
        obtain ⟨hLike, ⟨hMoreContract, hMoreSymbol⟩, hFirst⟩ :=
          Token.add_eq_ok_iff.mp (Bridge.mapError_eq_ok.mp hMore)
        obtain ⟨hAll, hTotal, hAmount⟩ := ih.mp hRest
        rw [hFirst, Nat.add_assoc] at hAmount
        simp only [Token.Like, hMoreContract, hMoreSymbol] at hAll hTotal
        exact ⟨⟨⟨hContract, hLike⟩, hAll⟩, hTotal, hAmount⟩
      · rintro ⟨⟨⟨-, hLike⟩, hAll⟩, hTotal, hAmount⟩
        have hRange : sum.amount.toNat + first.fee.amount.toNat < Nat.pow 256 32 := by
          have hIn := total.amount.isLt
          omega
        let more : Token := { sum with amount := ⟨_, hRange⟩ }
        have hMore : sum.add first.fee = .ok more :=
          Token.add_eq_ok_iff.mpr ⟨hLike, ⟨rfl, rfl⟩, rfl⟩
        refine Bridge.checked_bind_eq_ok.mpr ⟨more, Bridge.mapError_eq_ok.mpr hMore, ih.mpr ?_⟩
        exact ⟨hAll, hTotal, hAmount.trans (Nat.add_assoc _ _ _).symm⟩

/-- Fees in range that are not all of one asset are refused at the first of another asset. -/
theorem sumFees_of_unlike (hContract : ∀ tx ∈ l, tx.contract = contract)
    (hRange : sum.amount.toNat + (l.map fun tx => tx.fee.amount.toNat).sum < Nat.pow 256 32)
    (hUnlike : ¬∀ tx ∈ l, tx.fee.Like sum) :
    ∃ tx ∈ l, ¬tx.fee.Like sum ∧ sumFees contract sum l = .error
      (.malformed (.otherAsset tx.fee.symbol tx.fee.contract sum.symbol sum.contract)) := by
  induction l generalizing sum with
  | nil => exact absurd (fun _ hMem => absurd hMem List.not_mem_nil) hUnlike
  | cons first rest ih =>
    obtain ⟨hFirst, hRest⟩ := List.forall_mem_cons.mp hContract
    rw [List.map_cons, List.sum_cons, ← Nat.add_assoc] at hRange
    rw [sumFees, if_neg (not_not.mpr hFirst)]
    by_cases hLike : first.fee.Like sum
    · have hFits := Nat.lt_of_le_of_lt (Nat.le_add_right _ _) hRange
      let more : Token := { sum with amount := ⟨_, hFits⟩ }
      have hMore : sum.add first.fee = .ok more :=
        Token.add_eq_ok_iff.mpr ⟨hLike, ⟨rfl, rfl⟩, rfl⟩
      have hOther : ¬∀ tx ∈ rest, tx.fee.Like more := fun hAll =>
        hUnlike (List.forall_mem_cons.mpr ⟨hLike, hAll⟩)
      obtain ⟨tx, hMem, hNot, hRefused⟩ := ih hRest hRange hOther
      rw [hMore]
      exact ⟨tx, List.mem_cons_of_mem _ hMem, hNot, hRefused⟩
    · have hRefused : sum.add first.fee = .error (.otherAsset first.fee.symbol first.fee.contract
          sum.symbol sum.contract) :=
        if_neg fun hSame => hLike (Token.sameAsset_iff.mp hSame)
      rw [hRefused]
      exact ⟨first, List.mem_cons_self, hLike, rfl⟩

/-- A batch can be made of some transfers of one contract whose fees have a sum. -/
theorem make_eq_ok_iff {nonce : Nonce} {valsetCheckpoint : Digest} {batch : Batch} :
    make nonce contract l valsetCheckpoint = .ok batch ↔
      contract.requireNonZero = .ok () ∧ ∃ first rest total, l = first :: rest ∧
        sumFees contract first.fee.zeroOf l = .ok total ∧
        batch = ⟨nonce, l, total, contract, valsetCheckpoint, .pending⟩ := by
  unfold make
  constructor
  · intro h
    obtain ⟨_, hContract, h⟩ := Bridge.checked_bind_eq_ok.mp h
    cases l with
    | nil => cases h
    | cons first rest =>
      obtain ⟨total, hFees, h⟩ := Bridge.checked_bind_eq_ok.mp h
      cases h
      exact ⟨Bridge.mapError_eq_ok.mp hContract, first, rest, total, rfl, hFees, rfl⟩
  · rintro ⟨hContract, first, rest, total, rfl, hFees, rfl⟩
    refine Bridge.checked_bind_eq_ok.mpr ⟨(), Bridge.mapError_eq_ok.mpr hContract, ?_⟩
    exact Bridge.checked_bind_eq_ok.mpr ⟨total, hFees, rfl⟩

theorem make_of_sumFees {nonce : Nonce} {valsetCheckpoint : Digest} {first : Transfer}
    {rest : List Transfer} {fault : Invalid} (hContract : contract.requireNonZero = .ok ())
    (hFees : sumFees contract first.fee.zeroOf (first :: rest) = .error fault) :
    make nonce contract (first :: rest) valsetCheckpoint = .error fault := by
  unfold make
  rw [hContract]
  show (sumFees contract first.fee.zeroOf (first :: rest) >>= _) = _
  rw [hFees]
  rfl

end Batch

end TokenBridge

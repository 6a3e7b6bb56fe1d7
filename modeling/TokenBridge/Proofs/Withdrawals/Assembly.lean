import TokenBridge.Proofs.Bridge.Parallel
import TokenBridge.Proofs.Checkpoints.Preimages
import TokenBridge.Proofs.Claims.Progress

/-!
# The assembly of a batch

The transfers of a contract that wait are told by the contract alone, but their fees are added with
their symbols: a batch can be assembled as long as the transfers that are taken have one symbol. A
deposit may name any symbol with a contract, so that the transfers of two symbols of one contract
can stand in each other's way.

* `Batchable`: what a batch of a contract needs, under valid settings;
* `Batchable.exists_batch`, `Batchable.refused`: transfers of one symbol, and of more than one;
* `assembly_run`: both along a run from an empty store;
* `twoSymbols_bar`: a contract whose transfers cannot be batched.
-/

namespace TokenBridge

/-- The fee of a valid transfer is of the asset of its amount. -/
theorem Transfer.like_of_validate {tx : Transfer} (h : tx.validate = .ok ()) :
    tx.fee.Like tx.amount := by
  rw [validate] at h
  obtain ⟨_, -, h⟩ := Bridge.checked_bind_eq_ok.mp h
  obtain ⟨_, -, h⟩ := Bridge.checked_bind_eq_ok.mp h
  obtain ⟨_, -, h⟩ := Bridge.checked_bind_eq_ok.mp h
  by_cases hSame : tx.amount.sameAsset tx.fee = true
  · exact Token.sameAsset_iff.mp hSame
  · simp only [hSame] at h
    cases h

namespace Bridge

variable {b b' : Bridge} {contract : EthAddress}

/-! ## What a batch needs -/

/-- Transfers of a contract wait, a signer set is stored, a nonce is left, and the fees of all
waiting transfers of the contract have a sum in range. -/
structure Batchable (b : Bridge) (contract : EthAddress) : Prop where
  named : contract.isZero = false
  waiting : b.store.transfersOf contract ≠ []
  anchored : b.store.valsets.values ≠ []
  room : b.store.lastBatchNonce.toNat + 1 < UInt64.size
  fees : ((b.store.transfersOf contract).map fun tx => tx.fee.amount.toNat).sum < Nat.pow 256 32

theorem Batchable.requireNonZero (h : b.Batchable contract) :
    contract.requireNonZero = .ok () := by
  rw [Address.requireNonZero, h.named]
  rfl

/-- What the first batch needs, from the list of all that waits for it. -/
theorem Batchable.of_first {l : List Transfer} (hNamed : contract.isZero = false)
    (hWaiting : b.store.transfersOf contract = l) (hSome : l ≠ [])
    (hStored : b.store.valsets.values.length = 1) (hNonce : b.store.lastBatchNonce = .zero)
    (hFees : (l.map fun tx => tx.fee.amount.toNat).sum < Nat.pow 256 32) :
    b.Batchable contract where
  named := hNamed
  waiting := hWaiting ▸ hSome
  anchored := List.ne_nil_of_length_eq_add_one hStored
  room := by
    rw [hNonce]
    decide
  fees := hWaiting ▸ hFees

theorem Batchable.buildBatch_eq (h : b.Batchable contract) (hParams : b.params.validate = .ok ()) :
    ∃ nonce valsetCheckpoint, buildBatch contract b = (do
      let batch ← check
        ((Batch.make nonce contract (b.selection contract) valsetCheckpoint).mapError .invalid)
      let _ ← check (b.checkpointOfBatch batch)
      write fun s => s.takeBatch batch
      count .batchBuilt
      return batch : Handler Batch) b := by
  have hPool : ¬(b.store.transfersOf contract).isEmpty = true := fun hEmpty =>
    h.waiting (List.isEmpty_iff.mp hEmpty)
  obtain ⟨v, hAnchor⟩ : ∃ v, b.anchor = .ok v := by
    rw [anchor]
    cases hLast : b.store.latestValset? with
    | none => exact absurd (List.getLast?_eq_none_iff.mp hLast) h.anchored
    | some v => exact ⟨v, rfl⟩
  obtain ⟨valsetCheckpoint, hHash⟩ := exists_checkpointOfValset hParams v
  obtain ⟨nonce, hNonce⟩ := following_of_lt h.room
  refine ⟨nonce, valsetCheckpoint, ?_⟩
  rw [buildBatch, get_bind_apply, check_bind_of_ok (mapError_eq_ok.mpr h.requireNonZero)]
  simp only [if_neg hPool]
  rw [check_bind_of_ok hAnchor, check_bind_of_ok hHash, check_bind_of_ok hNonce]

theorem Batchable.exists_selection_eq (h : b.Batchable contract)
    (hParams : b.params.validate = .ok ()) :
    ∃ first rest, b.selection contract = first :: rest := by
  have hRoom : 0 < b.params.batchSize.toNat := by
    refine Nat.pos_of_ne_zero fun hZero => (Params.of_validate hParams).2.2 ?_
    exact UInt64.toNat_inj.mp hZero
  have hWaiting : 0 < (b.ranking contract).length := by
    rw [length_ranking]
    exact List.length_pos_of_ne_nil h.waiting
  refine List.exists_cons_of_length_pos ?_
  rw [selection, List.length_take]
  exact Nat.lt_min.mpr ⟨hRoom, hWaiting⟩

theorem Batchable.sum_lt (h : b.Batchable contract) :
    ((b.selection contract).map fun tx => tx.fee.amount.toNat).sum < Nat.pow 256 32 := by
  have hRanked : ((b.ranking contract).map fun tx => tx.fee.amount.toNat).sum =
      ((b.store.transfersOf contract).map fun tx => tx.fee.amount.toNat).sum :=
    ((List.mergeSort_perm _ _).map _).sum_nat
  have hSplit : b.selection contract ++ (b.ranking contract).drop b.params.batchSize.toNat =
      b.ranking contract := List.take_append_drop _ _
  rw [← hSplit, List.map_append, List.sum_append] at hRanked
  have hAll := h.fees
  omega

/-- What is taken is of the contract, and each fee is of the asset of its amount. -/
theorem like_of_mem_selection (hValid : ∀ tx ∈ b.store.custody, tx.validate = .ok ())
    {tx : Transfer} (hMem : tx ∈ b.selection contract) :
    tx.contract = contract ∧ tx.fee.contract = contract ∧ tx.fee.symbol = tx.amount.symbol := by
  have hWaiting := mem_ranking.mp (List.mem_of_mem_take hMem)
  obtain ⟨hPool, hContract⟩ := List.mem_filter.mp hWaiting
  rw [beq_iff_eq] at hContract
  obtain ⟨hFeeContract, hFeeSymbol⟩ :=
    Transfer.like_of_validate (hValid tx (List.mem_append_left _ hPool))
  exact ⟨hContract, hFeeContract.trans hContract, hFeeSymbol⟩

/-! ## One symbol or more -/

/-- The transfers have one symbol. -/
def Uniform (l : List Transfer) : Prop :=
  ∀ x ∈ l, ∀ y ∈ l, x.amount.symbol = y.amount.symbol

/-- What is taken has one symbol just when all fees are of the asset of any one of them. -/
theorem uniform_selection_iff (hValid : ∀ tx ∈ b.store.custody, tx.validate = .ok ())
    {first : Transfer} (hFirst : first ∈ b.selection contract) :
    Uniform (b.selection contract) ↔
      ∀ tx ∈ b.selection contract, tx.fee.Like first.fee.zeroOf := by
  obtain ⟨-, hFirstContract, hFirstSymbol⟩ := like_of_mem_selection hValid hFirst
  constructor
  · intro hUniform tx hMem
    obtain ⟨-, hContract, hSymbol⟩ := like_of_mem_selection hValid hMem
    refine ⟨hContract.trans hFirstContract.symm, ?_⟩
    exact hSymbol.trans ((hUniform tx hMem first hFirst).trans hFirstSymbol.symm)
  · intro hAll x hx y hy
    have hSymbol (tx : Transfer) (hMem : tx ∈ b.selection contract) :
        tx.amount.symbol = first.fee.symbol :=
      (like_of_mem_selection hValid hMem).2.2.symm.trans (hAll tx hMem).2
    exact (hSymbol x hx).trans (hSymbol y hy).symm

/-- Transfers of one symbol make up a batch. -/
theorem Batchable.exists_batch (h : b.Batchable contract) (hParams : b.params.validate = .ok ())
    (hValid : ∀ tx ∈ b.store.custody, tx.validate = .ok ())
    (hUniform : Uniform (b.selection contract)) :
    ∃ batch b', buildBatch contract b = .ok batch b' := by
  obtain ⟨nonce, valsetCheckpoint, hBuild⟩ := h.buildBatch_eq hParams
  obtain ⟨first, rest, hTaken⟩ := h.exists_selection_eq hParams
  have hFirst : first ∈ b.selection contract := hTaken ▸ List.mem_cons_self
  have hLike := (uniform_selection_iff hValid hFirst).mp hUniform
  let total : Token := { first.fee with amount := ⟨_, h.sum_lt⟩ }
  have hFees : Batch.sumFees contract first.fee.zeroOf (b.selection contract) = .ok total := by
    refine Batch.sumFees_eq_ok_iff.mpr ⟨fun tx hMem => ?_, ⟨rfl, rfl⟩, (Nat.zero_add _).symm⟩
    exact ⟨(like_of_mem_selection hValid hMem).1, hLike tx hMem⟩
  have hMake : Batch.make nonce contract (b.selection contract) valsetCheckpoint =
      .ok ⟨nonce, b.selection contract, total, contract, valsetCheckpoint, .pending⟩ :=
    Batch.make_eq_ok_iff.mpr ⟨h.requireNonZero, first, rest, total, hTaken, hFees, rfl⟩
  obtain ⟨hash, hHash⟩ := exists_checkpointOfBatch hParams
    ⟨nonce, b.selection contract, total, contract, valsetCheckpoint, .pending⟩
  rw [hBuild, check_bind_of_ok (mapError_eq_ok.mpr hMake), check_bind_of_ok hHash]
  exact ⟨_, _, rfl⟩

/-- Transfers of more than one symbol are refused, with two symbols of them. -/
theorem Batchable.refused (h : b.Batchable contract) (hParams : b.params.validate = .ok ())
    (hValid : ∀ tx ∈ b.store.custody, tx.validate = .ok ())
    (hMixed : ¬Uniform (b.selection contract)) :
    ∃ x ∈ b.selection contract, ∃ y ∈ b.selection contract, x.amount.symbol ≠ y.amount.symbol ∧
      buildBatch contract b = .error (.invalid (.malformed
        (.otherAsset x.amount.symbol contract y.amount.symbol contract))) b := by
  obtain ⟨nonce, valsetCheckpoint, hBuild⟩ := h.buildBatch_eq hParams
  obtain ⟨first, rest, hTaken⟩ := h.exists_selection_eq hParams
  have hFirst : first ∈ b.selection contract := hTaken ▸ List.mem_cons_self
  obtain ⟨-, hFirstContract, hFirstSymbol⟩ := like_of_mem_selection hValid hFirst
  have hRange : first.fee.zeroOf.amount.toNat +
      ((b.selection contract).map fun tx => tx.fee.amount.toNat).sum < Nat.pow 256 32 := by
    rw [show first.fee.zeroOf.amount.toNat = 0 from rfl, Nat.zero_add]
    exact h.sum_lt
  obtain ⟨x, hx, hOther, hFees⟩ := Batch.sumFees_of_unlike
    (fun tx hMem => (like_of_mem_selection hValid hMem).1) hRange
    (mt (uniform_selection_iff hValid hFirst).mpr hMixed)
  obtain ⟨-, hContract, hSymbol⟩ := like_of_mem_selection hValid hx
  refine ⟨x, hx, first, hFirst, fun hSame => hOther ⟨?_, ?_⟩, ?_⟩
  · exact hContract.trans hFirstContract.symm
  · exact hSymbol.trans (hSame.trans hFirstSymbol.symm)
  · have hZeroSymbol : first.fee.zeroOf.symbol = first.amount.symbol := hFirstSymbol
    have hZeroContract : first.fee.zeroOf.contract = contract := hFirstContract
    rw [hTaken, hSymbol, hContract, hZeroSymbol, hZeroContract] at hFees
    have hMake : Batch.make nonce contract (b.selection contract) valsetCheckpoint = .error
        (.malformed (.otherAsset x.amount.symbol contract first.amount.symbol contract)) :=
      hTaken ▸ Batch.make_of_sumFees h.requireNonZero hFees
    rw [hBuild]
    exact bind_of_error (check_eq_error.mpr ⟨mapError_eq_error.mpr ⟨_, hMake, rfl⟩, rfl⟩)

/-- Where all waiting transfers fit, two symbols among them are enough. -/
theorem Batchable.refused_of_fits (h : b.Batchable contract)
    (hParams : b.params.validate = .ok ())
    (hValid : ∀ tx ∈ b.store.custody, tx.validate = .ok ())
    (hFits : (b.store.transfersOf contract).length ≤ b.params.batchSize.toNat) {x y : Transfer}
    (hx : x ∈ b.store.transfersOf contract) (hy : y ∈ b.store.transfersOf contract)
    (hOther : x.amount.symbol ≠ y.amount.symbol) :
    ∃ refusal, buildBatch contract b = .error refusal b := by
  have hAll : b.selection contract = b.ranking contract := by
    rw [selection]
    exact List.take_of_length_le (length_ranking b contract ▸ hFits)
  have hMixed : ¬Uniform (b.selection contract) := by
    intro hUniform
    rw [hAll] at hUniform
    exact hOther (hUniform x (mem_ranking.mpr hx) y (mem_ranking.mpr hy))
  obtain ⟨_, -, _, -, -, hRefused⟩ := h.refused hParams hValid hMixed
  exact ⟨_, hRefused⟩

/-! ## Runs -/

/-- **Assembly.** In a run from an empty store under valid settings let transfers of a contract
wait, a signer set be stored, a batch nonce be left, and the fees of the waiting transfers have a
sum in range. Then a batch of the contract is built just when the transfers that are taken have one
symbol. Otherwise it is refused with two of their symbols, and nothing changes. -/
theorem assembly_run (origin : Bridge) (events : List Event) (contract : EthAddress)
    (hParams : origin.params.validate = .ok ())
    (hBatchable : (origin.blank.run events).Batchable contract) :
    let b := origin.blank.run events
    ((∃ batch b', buildBatch contract b = .ok batch b') ↔ Uniform (b.selection contract)) ∧
    (∀ refusal b', buildBatch contract b = .error refusal b' → b' = b ∧
      ∃ x ∈ b.selection contract, ∃ y ∈ b.selection contract,
        x.amount.symbol ≠ y.amount.symbol ∧ refusal = .invalid (.malformed
          (.otherAsset x.amount.symbol contract y.amount.symbol contract))) := by
  intro b
  have hOrderly : b.store.Orderly := orderly_run Store.orderly_empty events
  have hKept : b.params = origin.params := params_run origin.blank events
  rw [← hKept] at hParams
  by_cases hUniform : Uniform (b.selection contract)
  · obtain ⟨batch, b', hBuilt⟩ := hBatchable.exists_batch hParams hOrderly.valid hUniform
    refine ⟨⟨fun _ => hUniform, fun _ => ⟨batch, b', hBuilt⟩⟩, fun refusal m hRefused => ?_⟩
    rw [hBuilt] at hRefused
    cases hRefused
  · obtain ⟨x, hx, y, hy, hOther, hRefused⟩ :=
      hBatchable.refused hParams hOrderly.valid hUniform
    refine ⟨⟨fun ⟨batch, b', hBuilt⟩ => ?_, fun h => absurd h hUniform⟩, fun refusal m hError => ?_⟩
    · rw [hRefused] at hBuilt
      cases hBuilt
    · rw [hRefused] at hError
      cases hError
      exact ⟨rfl, x, hx, y, hy, hOther, rfl⟩

/-! ## One contract with one symbol and with two -/

/-- A signature whose two numbers are the first coordinate of the generator. -/
def generatorSignature : List UInt8 :=
  let x := bigEndian 32 Secp256k1.Point.generator.x
  x ++ x ++ [27]

/-- The key that signs the address of the first validator so. -/
def generatorKey : EthAddress :=
  ⟨.ofNat 20 0x9441d8022485260df453129baacc9c027c781094⟩

/-- The only validator registers a key, and its signer set is stored. -/
def anchored : List Event :=
  loneValidator ++
    [.message (.registerKey ⟨.ofNat 20 1⟩ generatorKey generatorSignature),
      .message .requestValset]

/-- Five units for some fee, under an id. -/
def withdrawal (symbol : String) (fee : Nat) (id : UInt64) : Transfer :=
  ⟨id, ⟨.ofNat 20 9⟩, ⟨.ofNat 20 10⟩, coins symbol 5, coins symbol fee⟩

def queuing (tx : Transfer) : Event :=
  .message (.send tx.sender tx.dest tx.amount tx.fee)

/-- Three transfers wait, the last two of them with the same higher fee. -/
def threeWithdrawals : List Event :=
  anchored ++ [.message (.claim ⟨.ofNat 20 2⟩ (depositOf ⟨1⟩ 600)),
    queuing (withdrawal "USD" 1 1), queuing (withdrawal "USD" 2 2), queuing (withdrawal "USD" 2 3)]

/-- A bridge whose batches have room for two transfers. -/
def narrow : Bridge :=
  { (default : Bridge) with params := { Params.default with batchSize := 2 } }

theorem waiting_threeWithdrawals :
    let b := narrow.blank.run threeWithdrawals
    b.store.transfersOf ⟨.ofNat 20 7⟩ =
      [withdrawal "USD" 1 1, withdrawal "USD" 2 2, withdrawal "USD" 2 3] ∧
    b.store.valsets.values.length = 1 ∧ b.store.lastBatchNonce = .zero := by
  decide +kernel

theorem batchable_threeWithdrawals :
    (narrow.blank.run threeWithdrawals).Batchable ⟨.ofNat 20 7⟩ := by
  obtain ⟨hWaiting, hStored, hNonce⟩ := waiting_threeWithdrawals
  exact .of_first rfl hWaiting (List.cons_ne_nil _ _) hStored hNonce (by decide)

theorem uniform_threeWithdrawals :
    Uniform ((narrow.blank.run threeWithdrawals).selection ⟨.ofNat 20 7⟩) := by
  have hSymbol : ∀ tx ∈ (narrow.blank.run threeWithdrawals).store.transfersOf ⟨.ofNat 20 7⟩,
      tx.amount.symbol = "USD" := by
    rw [waiting_threeWithdrawals.1]
    decide
  intro x hx y hy
  rw [hSymbol x (mem_ranking.mp (List.mem_of_mem_take hx)),
    hSymbol y (mem_ranking.mp (List.mem_of_mem_take hy))]

theorem assembly_of_threeWithdrawals :
    narrow.params.validate = .ok () ∧
    (narrow.blank.run threeWithdrawals).Batchable ⟨.ofNat 20 7⟩ ∧
    ∃ batch b', buildBatch ⟨.ofNat 20 7⟩ (narrow.blank.run threeWithdrawals) = .ok batch b' := by
  have hParams : narrow.params.validate = .ok () := by decide
  exact ⟨hParams, batchable_threeWithdrawals,
    (assembly_run narrow threeWithdrawals ⟨.ofNat 20 7⟩ hParams batchable_threeWithdrawals).1.mpr
      uniform_threeWithdrawals⟩

/-- Two deposits of one contract name two symbols, and some of each is withdrawn. -/
def twoSymbols : List Event :=
  anchored ++ [.message (.claim ⟨.ofNat 20 2⟩ (depositOf ⟨1⟩ 600)),
    .message (.claim ⟨.ofNat 20 2⟩
      (.deposit ⟨2⟩ (coins "EUR" 600) ⟨.ofNat 20 8⟩ ⟨.ofNat 20 9⟩)),
    queuing (withdrawal "USD" 2 1), queuing (withdrawal "EUR" 1 2)]

theorem waiting_twoSymbols :
    let b := (default : Bridge).blank.run twoSymbols
    b.store.transfersOf ⟨.ofNat 20 7⟩ = [withdrawal "USD" 2 1, withdrawal "EUR" 1 2] ∧
    b.store.valsets.values.length = 1 ∧ b.store.lastBatchNonce = .zero := by
  decide +kernel

theorem batchable_twoSymbols :
    ((default : Bridge).blank.run twoSymbols).Batchable ⟨.ofNat 20 7⟩ := by
  obtain ⟨hWaiting, hStored, hNonce⟩ := waiting_twoSymbols
  exact .of_first rfl hWaiting (List.cons_ne_nil _ _) hStored hNonce (by decide)

/-- All else that a batch needs is there, and yet the two transfers can not be batched. -/
theorem twoSymbols_bar :
    (default : Bridge).params.validate = .ok () ∧
    ((default : Bridge).blank.run twoSymbols).Batchable ⟨.ofNat 20 7⟩ ∧
    ∃ refusal, buildBatch ⟨.ofNat 20 7⟩ ((default : Bridge).blank.run twoSymbols) =
      .error refusal ((default : Bridge).blank.run twoSymbols) := by
  have hWaiting := waiting_twoSymbols.1
  refine ⟨by decide, batchable_twoSymbols, batchable_twoSymbols.refused_of_fits ?_
    (orderly_run Store.orderly_empty twoSymbols).valid ?_ (hWaiting ▸ List.mem_cons_self)
    (hWaiting ▸ List.mem_cons_of_mem _ List.mem_cons_self) (by decide)⟩
  · rw [params_run]
    decide
  · rw [hWaiting, params_run]
    decide

end Bridge

end TokenBridge

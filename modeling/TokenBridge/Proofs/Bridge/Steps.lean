import TokenBridge.Bridge.Run
import TokenBridge.Proofs.Bridge.Verdicts

/-!
# Steps

Everything that an event can do to a bridge, said once. `Handled` lists the ways in which a message
is answered, each with what was checked and the state after it; `Step` adds refusals, which change
nothing but counters, and the changes of the validators. Whatever holds of a bridge along its life
follows from `step_after` by cases, and from there by `run_induction`.
-/

namespace TokenBridge.Bridge

/-- The ways in which a message is answered, with the answer and the state after it. -/
inductive Handled (b : Bridge) : Message → Reply → Bridge → Prop
  | claimed {orchestrator : AccountAddress} {claim : Claim} {validator : ValidatorAddress}
      {power : UInt64} {outcome : ClaimOutcome} {m : Bridge}
      (hValid : claim.validate = .ok ())
      (hSigner : b.signer orchestrator = .ok (validator, power))
      (hJudged : Judged b validator power claim outcome m) :
      Handled b (.claim orchestrator claim) (.claimed outcome)
        { m with counters := m.counters.bump (.submitted outcome) }
  | valsetReconfirmed {orchestrator : AccountAddress} {nonce : Nonce} {signature : List UInt8}
      {validator : ValidatorAddress} {key : EthAddress} {v : Valset}
      (hConfirmer : b.confirmer orchestrator = .ok (validator, key))
      (hValset : b.valsetAt nonce = .ok v)
      (hStored : (b.store.valsetConfirm? nonce validator).isSome = true) :
      Handled b (.confirmValset orchestrator nonce signature) (.confirmed .duplicate) b
  | valsetConfirmed {orchestrator : AccountAddress} {nonce : Nonce} {signature : List UInt8}
      {validator : ValidatorAddress} {key : EthAddress} {v : Valset} {hash : Digest}
      {sig : EthSignature}
      (hConfirmer : b.confirmer orchestrator = .ok (validator, key))
      (hValset : b.valsetAt nonce = .ok v)
      (hNew : (b.store.valsetConfirm? nonce validator).isSome = false)
      (hTurn : b.checkTurn validator .valset (b.store.valsets.values.map Valset.nonce) nonce =
        .ok ())
      (hHash : b.checkpointOfValset v = .ok hash)
      (hSignature : checkSignature hash signature key = .ok ())
      (hParts : readSignature signature = .ok sig) :
      Handled b (.confirmValset orchestrator nonce signature) (.confirmed .stored)
        { b with
          store := (b.store.putValsetConfirm
            ⟨nonce, validator, orchestrator, key, sig⟩).setConfirmCursor validator .valset nonce
          counters := b.counters.bump .valsetConfirmed }
  | batchReconfirmed {orchestrator : AccountAddress} {contract : EthAddress} {nonce : Nonce}
      {signature : List UInt8} {validator : ValidatorAddress} {key : EthAddress} {batch : Batch}
      (hConfirmer : b.confirmer orchestrator = .ok (validator, key))
      (hBatch : b.batchAt contract nonce = .ok batch)
      (hPending : batch.isPending = true)
      (hStored : (b.store.batchConfirm? contract nonce validator).isSome = true) :
      Handled b (.confirmBatch orchestrator contract nonce signature) (.confirmed .duplicate) b
  | batchConfirmed {orchestrator : AccountAddress} {contract : EthAddress} {nonce : Nonce}
      {signature : List UInt8} {validator : ValidatorAddress} {key : EthAddress} {batch : Batch}
      {hash : Digest} {sig : EthSignature}
      (hConfirmer : b.confirmer orchestrator = .ok (validator, key))
      (hBatch : b.batchAt contract nonce = .ok batch)
      (hPending : batch.isPending = true)
      (hNew : (b.store.batchConfirm? contract nonce validator).isSome = false)
      (hTurn : b.checkTurn validator (.batch contract)
        ((b.store.pendingBatchesOf contract).map Batch.nonce) nonce = .ok ())
      (hHash : b.checkpointOfBatch batch = .ok hash)
      (hSignature : checkSignature hash signature key = .ok ())
      (hParts : readSignature signature = .ok sig) :
      Handled b (.confirmBatch orchestrator contract nonce signature) (.confirmed .stored)
        { b with
          store := (b.store.putBatchConfirm ⟨nonce, contract, validator, orchestrator, key,
            sig⟩).setConfirmCursor validator (.batch contract) nonce
          counters := b.counters.bump .batchConfirmed }
  | registered {validator : ValidatorAddress} {key : EthAddress} {signature : List UInt8}
      (hBonded : b.registry.isBonded validator = true)
      (hKey : key.requireNonZero = .ok ())
      (hSignature : checkSignature (registrationHash validator) signature key = .ok ())
      (hFree : b.checkFree validator key = .ok ()) :
      Handled b (.registerKey validator key signature) .registered
        { b with store := b.store.putKey validator key }
  | queued {sender : AccountAddress} {dest : EthAddress} {amount fee total : Token}
      {ledger : Ledger}
      (hSender : sender.isZero = false)
      (hRoom : b.store.lastTransferId.toNat + 1 ≠ UInt64.size)
      (hValid : (⟨b.store.lastTransferId + 1, sender, dest, amount, fee⟩ : Transfer).validate =
        .ok ())
      (hTotal : amount.add fee = .ok total)
      (hBurn : b.ledger.burn sender total.amount (voucherDenom amount.contract amount.symbol) =
        .ok ledger) :
      Handled b (.send sender dest amount fee) (.queued (b.store.lastTransferId + 1))
        { b with
          ledger
          store := b.store.queue ⟨b.store.lastTransferId + 1, sender, dest, amount, fee⟩ }
  | built {contract : EthAddress} {v : Valset} {valsetCheckpoint hash : Digest} {nonce : Nonce}
      {batch : Batch}
      (hContract : contract.requireNonZero = .ok ())
      (hPool : (b.store.transfersOf contract).isEmpty = false)
      (hAnchor : b.anchor = .ok v)
      (hAnchorHash : b.checkpointOfValset v = .ok valsetCheckpoint)
      (hNonce : following b.store.lastBatchNonce = .ok nonce)
      (hMake : Batch.make nonce contract (b.selection contract) valsetCheckpoint = .ok batch)
      (hHash : b.checkpointOfBatch batch = .ok hash) :
      Handled b (.buildBatch contract) (.batch batch)
        { b with store := b.store.takeBatch batch, counters := b.counters.bump .batchBuilt }
  | requested {v : Valset} {hash : Digest}
      (hSome : b.snapshot.isEmpty = false)
      (hMake : b.currentValset = .ok v)
      (hHash : b.checkpointOfValset v = .ok hash) :
      Handled b .requestValset (.valset (some v)) { b with store := b.store.putValset v }
  | upToDate
      (hNear : b.snapshot.isEmpty = true ∨ ∃ v, b.currentValset = .ok v ∧
        b.store.latestValset?.any (fun latest => v.distance latest ≤ b.params.changeThreshold)) :
      Handled b .updateValset (.valset none) b
  | updated {v : Valset} {hash : Digest}
      (hSome : b.snapshot.isEmpty = false)
      (hMake : b.currentValset = .ok v)
      (hFar : ¬b.store.latestValset?.any
        (fun latest => v.distance latest ≤ b.params.changeThreshold))
      (hHash : b.checkpointOfValset v = .ok hash) :
      Handled b .updateValset (.valset (some v)) { b with store := b.store.putValset v }
  | valsetReported {nonce : Nonce} {v : Valset} {signals : List SlashingSignal}
      (hValset : b.valsetAt nonce = .ok v)
      (hSignals : signals = b.missed .valset nonce fun validator =>
        (b.store.valsetConfirm? nonce validator).isSome) :
      Handled b (.reportMissedValset nonce) (.reported signals)
        { b with signals := b.signals ++ signals }
  | batchReported {contract : EthAddress} {nonce : Nonce} {batch : Batch}
      {signals : List SlashingSignal}
      (hBatch : b.batchAt contract nonce = .ok batch)
      (hSignals : signals = b.missed (.batch contract) nonce fun validator =>
        (b.store.batchConfirm? contract nonce validator).isSome) :
      Handled b (.reportMissedBatch contract nonce) (.reported signals)
        { b with signals := b.signals ++ signals }

variable {b b' : Bridge}

/-! ## Confirmations -/

theorem handled_confirmValset {orchestrator : AccountAddress} {nonce : Nonce}
    {signature : List UInt8} {outcome : ConfirmOutcome}
    (h : confirmValset orchestrator nonce signature b = .ok outcome b') :
    Handled b (.confirmValset orchestrator nonce signature) (.confirmed outcome) b' := by
  rw [confirmValset, get_bind_apply] at h
  obtain ⟨⟨validator, key⟩, hConfirmer, h⟩ := check_bind_eq_ok.mp h
  obtain ⟨v, hValset, h⟩ := check_bind_eq_ok.mp h
  by_cases hStored : (b.store.valsetConfirm? nonce validator).isSome = true
  · rw [if_pos hStored] at h
    obtain ⟨rfl, rfl⟩ := pure_eq_ok.mp h
    exact .valsetReconfirmed hConfirmer hValset hStored
  · rw [if_neg hStored] at h
    obtain ⟨_, hTurn, h⟩ := check_bind_eq_ok.mp h
    obtain ⟨hash, hHash, h⟩ := check_bind_eq_ok.mp h
    obtain ⟨_, hSignature, h⟩ := check_bind_eq_ok.mp h
    obtain ⟨sig, hParts, h⟩ := check_bind_eq_ok.mp h
    cases h
    exact .valsetConfirmed hConfirmer hValset (Bool.eq_false_iff.mpr hStored) hTurn hHash hSignature
      hParts

theorem clean_confirmValset (orchestrator : AccountAddress) (nonce : Nonce)
    (signature : List UInt8) : Clean (confirmValset orchestrator nonce signature) := by
  refine Clean.get_bind fun b => Clean.bind (reads_check _) fun _ =>
    Clean.bind (reads_check _) fun v => Clean.ite (sure_pure _).clean ?_
  refine Clean.bind (reads_check _) fun _ => Clean.bind (reads_check _) fun hash =>
    Clean.bind (reads_check _) fun _ => Clean.bind (reads_check _) fun sig => ?_
  exact ((sure_write _).bind fun _ => (sure_count _).bind fun _ => sure_pure _).clean

theorem handled_confirmBatch {orchestrator : AccountAddress} {contract : EthAddress} {nonce : Nonce}
    {signature : List UInt8} {outcome : ConfirmOutcome}
    (h : confirmBatch orchestrator contract nonce signature b = .ok outcome b') :
    Handled b (.confirmBatch orchestrator contract nonce signature) (.confirmed outcome) b' := by
  rw [confirmBatch, get_bind_apply] at h
  obtain ⟨⟨validator, key⟩, hConfirmer, h⟩ := check_bind_eq_ok.mp h
  obtain ⟨batch, hBatch, h⟩ := check_bind_eq_ok.mp h
  obtain ⟨hClosed, h⟩ := guard_eq_ok.mp h
  have hPending : batch.isPending = true := by
    simpa using hClosed
  by_cases hStored : (b.store.batchConfirm? contract nonce validator).isSome = true
  · simp only [if_pos hStored] at h
    obtain ⟨rfl, rfl⟩ := pure_eq_ok.mp h
    exact .batchReconfirmed hConfirmer hBatch hPending hStored
  · simp only [if_neg hStored] at h
    obtain ⟨_, hTurn, h⟩ := check_bind_eq_ok.mp h
    obtain ⟨hash, hHash, h⟩ := check_bind_eq_ok.mp h
    obtain ⟨_, hSignature, h⟩ := check_bind_eq_ok.mp h
    obtain ⟨sig, hParts, h⟩ := check_bind_eq_ok.mp h
    cases h
    exact .batchConfirmed hConfirmer hBatch hPending (Bool.eq_false_iff.mpr hStored) hTurn hHash
      hSignature hParts

theorem clean_confirmBatch (orchestrator : AccountAddress) (contract : EthAddress) (nonce : Nonce)
    (signature : List UInt8) : Clean (confirmBatch orchestrator contract nonce signature) := by
  refine Clean.get_bind fun b => Clean.bind (reads_check _) fun _ =>
    Clean.bind (reads_check _) fun batch => Clean.guard (Clean.ite (sure_pure _).clean ?_)
  refine Clean.bind (reads_check _) fun _ => Clean.bind (reads_check _) fun hash =>
    Clean.bind (reads_check _) fun _ => Clean.bind (reads_check _) fun sig => ?_
  exact ((sure_write _).bind fun _ => (sure_count _).bind fun _ => sure_pure _).clean

theorem handled_reportMissedValset {nonce : Nonce} {signals : List SlashingSignal}
    (h : reportMissedValset nonce b = .ok signals b') :
    Handled b (.reportMissedValset nonce) (.reported signals) b' := by
  rw [reportMissedValset, get_bind_apply] at h
  obtain ⟨v, hValset, h⟩ := check_bind_eq_ok.mp h
  cases h
  exact .valsetReported hValset rfl

theorem clean_reportMissedValset (nonce : Nonce) : Clean (reportMissedValset nonce) :=
  Clean.get_bind fun _ => Clean.bind (reads_check _) fun _ =>
    ((sure_report _).bind fun _ => sure_pure _).clean

theorem handled_reportMissedBatch {contract : EthAddress} {nonce : Nonce}
    {signals : List SlashingSignal} (h : reportMissedBatch contract nonce b = .ok signals b') :
    Handled b (.reportMissedBatch contract nonce) (.reported signals) b' := by
  rw [reportMissedBatch, get_bind_apply] at h
  obtain ⟨batch, hBatch, h⟩ := check_bind_eq_ok.mp h
  cases h
  exact .batchReported hBatch rfl

theorem clean_reportMissedBatch (contract : EthAddress) (nonce : Nonce) :
    Clean (reportMissedBatch contract nonce) :=
  Clean.get_bind fun _ => Clean.bind (reads_check _) fun _ =>
    ((sure_report _).bind fun _ => sure_pure _).clean

/-! ## Keys -/

theorem handled_registerKey {validator : ValidatorAddress} {key : EthAddress}
    {signature : List UInt8} {u : Unit} (h : registerKey validator key signature b = .ok u b') :
    Handled b (.registerKey validator key signature) .registered b' := by
  rw [registerKey, get_bind_apply] at h
  obtain ⟨hUnbonded, h⟩ := guard_eq_ok.mp h
  have hBonded : b.registry.isBonded validator = true := by
    simpa using hUnbonded
  obtain ⟨_, hKey, h⟩ := check_bind_eq_ok.mp h
  obtain ⟨_, hSignature, h⟩ := check_bind_eq_ok.mp h
  obtain ⟨_, hFree, h⟩ := check_bind_eq_ok.mp h
  cases h
  exact .registered hBonded (mapError_eq_ok.mp hKey) hSignature hFree

theorem clean_registerKey (validator : ValidatorAddress) (key : EthAddress)
    (signature : List UInt8) : Clean (registerKey validator key signature) :=
  Clean.get_bind fun _ => Clean.guard <| Clean.bind (reads_check _) fun _ =>
    Clean.bind (reads_check _) fun _ => Clean.bind (reads_check _) fun _ => (sure_write _).clean

/-! ## Withdrawals -/

theorem handled_send {sender : AccountAddress} {dest : EthAddress} {amount fee : Token}
    {id : UInt64} (h : send sender dest amount fee b = .ok id b') :
    Handled b (.send sender dest amount fee) (.queued id) b' := by
  rw [send, get_bind_apply] at h
  obtain ⟨hSender, h⟩ := guard_eq_ok.mp h
  obtain ⟨hRoom, h⟩ := guard_eq_ok.mp h
  obtain ⟨_, hValid, h⟩ := check_bind_eq_ok.mp h
  obtain ⟨total, hTotal, h⟩ := check_bind_eq_ok.mp h
  obtain ⟨ledger, hBurn, h⟩ := check_bind_eq_ok.mp h
  cases h
  exact .queued (Bool.eq_false_iff.mpr hSender) hRoom (mapError_eq_ok.mp hValid)
    (mapError_eq_ok.mp hTotal) hBurn

theorem clean_send (sender : AccountAddress) (dest : EthAddress) (amount fee : Token) :
    Clean (send sender dest amount fee) := by
  refine Clean.get_bind fun b => Clean.guard <| Clean.guard <| Clean.bind (reads_check _) fun _ =>
    Clean.bind (reads_check _) fun total => Clean.bind (reads_check _) fun ledger => ?_
  exact ((sure_set _).bind fun _ => (sure_write _).bind fun _ => sure_pure _).clean

theorem handled_buildBatch {contract : EthAddress} {batch : Batch}
    (h : buildBatch contract b = .ok batch b') :
    Handled b (.buildBatch contract) (.batch batch) b' := by
  rw [buildBatch, get_bind_apply] at h
  obtain ⟨_, hContract, h⟩ := check_bind_eq_ok.mp h
  obtain ⟨hPool, h⟩ := guard_eq_ok.mp h
  obtain ⟨v, hAnchor, h⟩ := check_bind_eq_ok.mp h
  obtain ⟨valsetCheckpoint, hAnchorHash, h⟩ := check_bind_eq_ok.mp h
  obtain ⟨nonce, hNonce, h⟩ := check_bind_eq_ok.mp h
  obtain ⟨made, hMake, h⟩ := check_bind_eq_ok.mp h
  obtain ⟨hash, hHash, h⟩ := check_bind_eq_ok.mp h
  cases h
  exact .built (mapError_eq_ok.mp hContract) (Bool.eq_false_iff.mpr hPool) hAnchor hAnchorHash
    hNonce (mapError_eq_ok.mp hMake) hHash

theorem clean_buildBatch (contract : EthAddress) : Clean (buildBatch contract) := by
  refine Clean.get_bind fun b => Clean.bind (reads_check _) fun _ => Clean.guard <|
    Clean.bind (reads_check _) fun v => Clean.bind (reads_check _) fun valsetCheckpoint =>
    Clean.bind (reads_check _) fun nonce => Clean.bind (reads_check _) fun batch =>
    Clean.bind (reads_check _) fun hash => ?_
  exact ((sure_write _).bind fun _ => (sure_count _).bind fun _ => sure_pure _).clean

/-! ## Signer sets -/

theorem storeValset_eq_ok {v : Valset} {u : Unit} (h : storeValset v b = .ok u b') :
    ∃ hash, b.checkpointOfValset v = .ok hash ∧ b' = { b with store := b.store.putValset v } := by
  rw [storeValset, get_bind_apply] at h
  obtain ⟨hash, hHash, h⟩ := check_bind_eq_ok.mp h
  exact ⟨hash, hHash, write_eq_ok.mp h⟩

theorem clean_storeValset (v : Valset) : Clean (storeValset v) :=
  Clean.get_bind fun _ => Clean.bind (reads_check _) fun _ => (sure_write _).clean

theorem handled_requestValset {v : Valset} (h : requestValset b = .ok v b') :
    Handled b .requestValset (.valset (some v)) b' := by
  rw [requestValset, get_bind_apply] at h
  obtain ⟨hSome, h⟩ := guard_eq_ok.mp h
  obtain ⟨made, hMake, h⟩ := check_bind_eq_ok.mp h
  obtain ⟨_, m, hStore, h⟩ := bind_eq_ok.mp h
  obtain ⟨hash, hHash, rfl⟩ := storeValset_eq_ok hStore
  obtain ⟨rfl, rfl⟩ := pure_eq_ok.mp h
  exact .requested (Bool.eq_false_iff.mpr hSome) hMake hHash

theorem clean_requestValset : Clean requestValset :=
  Clean.get_bind fun _ => Clean.guard <| Clean.bind (reads_check _) fun _ =>
    Clean.bind_sure (clean_storeValset _) fun _ => sure_pure _

theorem handled_updateValset {made : Option Valset} (h : updateValset b = .ok made b') :
    Handled b .updateValset (.valset made) b' := by
  rw [updateValset, get_bind_apply] at h
  by_cases hEmpty : b.snapshot.isEmpty = true
  · rw [if_pos hEmpty] at h
    obtain ⟨rfl, rfl⟩ := pure_eq_ok.mp h
    exact .upToDate (Or.inl hEmpty)
  · rw [if_neg hEmpty] at h
    obtain ⟨v, hMake, h⟩ := check_bind_eq_ok.mp h
    by_cases hNear : b.store.latestValset?.any
        (fun latest => v.distance latest ≤ b.params.changeThreshold) = true
    · rw [if_pos hNear] at h
      obtain ⟨rfl, rfl⟩ := pure_eq_ok.mp h
      exact .upToDate (Or.inr ⟨v, hMake, hNear⟩)
    · rw [if_neg hNear] at h
      obtain ⟨_, m, hStore, h⟩ := bind_eq_ok.mp h
      obtain ⟨hash, hHash, rfl⟩ := storeValset_eq_ok hStore
      obtain ⟨rfl, rfl⟩ := pure_eq_ok.mp h
      exact .updated (Bool.eq_false_iff.mpr hEmpty) hMake hNear hHash

theorem clean_updateValset : Clean updateValset := by
  refine Clean.get_bind fun b => Clean.ite (sure_pure _).clean ?_
  refine Clean.bind (reads_check _) fun v => Clean.ite (sure_pure _).clean ?_
  exact Clean.bind_sure (clean_storeValset _) fun _ => sure_pure _

/-! ## Messages -/

theorem map_eq_ok {α β : Type} {x : Handler α} {g : α → β} {reply : β} :
    (g <$> x) b = .ok reply b' ↔ ∃ a, x b = .ok a b' ∧ g a = reply := by
  have hMap : (g <$> x) b = EStateM.map g x b := rfl
  rw [hMap, EStateM.map]
  cases x b with
  | ok a m =>
    constructor
    · intro h
      cases h
      exact ⟨a, rfl, rfl⟩
    · rintro ⟨_, h, rfl⟩
      cases h
      rfl
  | error e m =>
    constructor
    · intro h
      cases h
    · rintro ⟨_, h, _⟩
      cases h

theorem handled_of_handle {message : Message} {reply : Reply}
    (h : handle message b = .ok reply b') : Handled b message reply b' := by
  cases message with
  | claim orchestrator claim =>
    obtain ⟨outcome, hRun, rfl⟩ := map_eq_ok.mp h
    obtain ⟨m, hJudge, rfl⟩ := submitClaim_eq_ok hRun
    obtain ⟨validator, power, hValid, hSigner, hJudged⟩ := judge_eq_ok hJudge
    exact .claimed hValid hSigner hJudged
  | confirmValset orchestrator nonce signature =>
    obtain ⟨outcome, hRun, rfl⟩ := map_eq_ok.mp h
    exact handled_confirmValset hRun
  | confirmBatch orchestrator contract nonce signature =>
    obtain ⟨outcome, hRun, rfl⟩ := map_eq_ok.mp h
    exact handled_confirmBatch hRun
  | registerKey validator key signature =>
    obtain ⟨_, hRun, rfl⟩ := map_eq_ok.mp h
    exact handled_registerKey hRun
  | send sender dest amount fee =>
    obtain ⟨id, hRun, rfl⟩ := map_eq_ok.mp h
    exact handled_send hRun
  | buildBatch contract =>
    obtain ⟨batch, hRun, rfl⟩ := map_eq_ok.mp h
    exact handled_buildBatch hRun
  | requestValset =>
    obtain ⟨v, hRun, rfl⟩ := map_eq_ok.mp h
    exact handled_requestValset hRun
  | updateValset =>
    obtain ⟨made, hRun, rfl⟩ := map_eq_ok.mp h
    exact handled_updateValset hRun
  | reportMissedValset nonce =>
    obtain ⟨signals, hRun, rfl⟩ := map_eq_ok.mp h
    exact handled_reportMissedValset hRun
  | reportMissedBatch contract nonce =>
    obtain ⟨signals, hRun, rfl⟩ := map_eq_ok.mp h
    exact handled_reportMissedBatch hRun

/-- The counts after a refusal: a refused claim is counted. -/
def refusalCounters (b : Bridge) : Message → BridgeError → Counters
  | .claim .., refusal => b.counters.bump (.rejected refusal.reason)
  | _, _ => b.counters

/-- A refused message changes nothing but the count of refused claims. -/
theorem handle_eq_error {message : Message} {refusal : BridgeError}
    (h : handle message b = .error refusal b') :
    b' = { b with counters := b.refusalCounters message refusal } := by
  cases message with
  | claim orchestrator claim =>
    have hMap : handle (.claim orchestrator claim) b =
        EStateM.map .claimed (submitClaim orchestrator claim) b := rfl
    rw [hMap, EStateM.map] at h
    cases hSubmit : submitClaim orchestrator claim b with
    | ok outcome m =>
      rw [hSubmit] at h
      cases h
    | error fault m =>
      rw [hSubmit] at h
      cases h
      exact submitClaim_eq_error hSubmit
  | confirmValset orchestrator nonce signature =>
    exact (clean_confirmValset orchestrator nonce signature).map _ h
  | confirmBatch orchestrator contract nonce signature =>
    exact (clean_confirmBatch orchestrator contract nonce signature).map _ h
  | registerKey validator key signature =>
    exact (clean_registerKey validator key signature).map _ h
  | send sender dest amount fee => exact (clean_send sender dest amount fee).map _ h
  | buildBatch contract => exact (clean_buildBatch contract).map _ h
  | requestValset => exact clean_requestValset.map _ h
  | updateValset => exact clean_updateValset.map _ h
  | reportMissedValset nonce => exact (clean_reportMissedValset nonce).map _ h
  | reportMissedBatch contract nonce => exact (clean_reportMissedBatch contract nonce).map _ h

/-! ## Events -/

/-- The ways in which an event changes a bridge. -/
inductive Step (b : Bridge) : Event → Bridge → Prop
  | handled {message : Message} {reply : Reply} {b' : Bridge} (h : Handled b message reply b') :
      Step b (.message message) b'
  | refused {message : Message} (counters : Counters) :
      Step b (.message message) { b with counters }
  | staked {change : Staking} {registry : Registry} (h : b.registry.apply change = .ok registry) :
      Step b (.staking change) { b with registry }
  | unstaked {change : Staking} : Step b (.staking change) b

/-- **What an event does.** -/
theorem step_after (b : Bridge) (event : Event) : Step b event (b.after event) := by
  cases event with
  | message message =>
    rw [after, left]
    cases h : handle message b with
    | ok reply b' => exact .handled (handled_of_handle h)
    | error refusal b' =>
      rw [handle_eq_error h]
      exact .refused _
  | staking change =>
    have hStake : stake change b =
        (check (b.registry.apply change) >>= fun registry => set { b with registry }) b := rfl
    rw [after, left, hStake]
    cases h : b.registry.apply change with
    | ok registry => exact .staked h
    | error refusal => exact .unstaked

theorem left_map {α β : Type} (g : α → β) (x : Handler α) (b : Bridge) :
    left (g <$> x) b = left x b := by
  have hMap : (g <$> x) b = EStateM.map g x b := rfl
  rw [left, hMap, EStateM.map, left]
  cases x b with
  | ok reply m => rfl
  | error refusal m => rfl

/-! ## Runs -/

theorem run_induction {P : Bridge → Prop} (hStep : ∀ b event, P b → P (b.after event)) {b : Bridge}
    (h : P b) (events : List Event) : P (b.run events) := by
  induction events generalizing b with
  | nil => exact h
  | cons event events ih => exact ih (hStep b event h)

/-- The same bridge in the same surroundings, but with nothing stored yet. -/
def blank (b : Bridge) : Bridge :=
  { b with store := .empty }

end TokenBridge.Bridge

import TokenBridge.Proofs.Bridge.Refusals
import TokenBridge.Proofs.Checkpoints.Preimages
import TokenBridge.Proofs.Genesis.Custody
import TokenBridge.Proofs.Valsets.Newest

/-!
# Exhaustion

A fatal refusal says that the bridge can take no more. Two things could be behind it: a counter that
stands at the largest number of 64 bits, or a checkpoint that cannot be encoded. The second never
happens. An encoding fails only for an id that does not fit into a word, the settings are checked
when the bridge is launched, and a document brings its own settings only if they pass that check.
Nothing is asked of the store: whatever it was filled with, each of its signer sets and batches has
a checkpoint.

* `FatalBy`: a refusal that is fatal for given causes at most;
* `Spent`: the counter that a message advances stands at its end;
* `refusesWith_handle`: a message is fatal for its own spent counter only;
* `Episode`, `through`: events, and documents loaded at any time;
* `exhaustion_run`: along every life of a bridge.
-/

namespace TokenBridge

/-- A nonce that none follows. -/
def Nonce.IsLast (n : Nonce) : Prop :=
  n.toNat + 1 = UInt64.size

namespace Bridge

variable {b b' : Bridge} {R : Exhausted → Prop}

/-! ## Fatal refusals -/

/-- A refusal is fatal for these causes at most. -/
def FatalBy (R : Exhausted → Prop) (refusal : BridgeError) : Prop :=
  ∀ cause, refusal = .fatal cause → R cause

theorem fatalBy_of_reason {reason : Reason} (hMild : reason ≠ .fatal) (refusal : BridgeError)
    (h : refusal.reason = reason) : FatalBy R refusal := by
  rintro cause rfl
  exact absurd h.symm hMild

theorem fatalBy_invalid (cause : Invalid) : FatalBy R (.invalid cause) :=
  fatalBy_of_reason (show Reason.invalid ≠ .fatal by decide) _ rfl

theorem fatalBy_unauthorized (cause : Denial) : FatalBy R (.unauthorized cause) :=
  fatalBy_of_reason (show Reason.unauthorized ≠ .fatal by decide) _ rfl

theorem fatalBy_outOfSequence (expected got : Nonce) : FatalBy R (.outOfSequence expected got) :=
  fatalBy_of_reason (show Reason.outOfSequence ≠ .fatal by decide) _ rfl

theorem FailsWith.fatalBy {α : Type} {e : Except BridgeError α} {reason : Reason}
    (h : FailsWith (·.reason = reason) e) (hMild : reason ≠ .fatal) : FailsWith (FatalBy R) e :=
  h.mono (fatalBy_of_reason hMild)

theorem RefusesWith.ne_fatal {α : Type} {x : Handler α} {reason : Reason} {cause : Exhausted}
    (h : RefusesWith (·.reason = reason) x b) (hMild : reason ≠ .fatal) :
    x b ≠ .error (.fatal cause) b' :=
  fun hFatal => hMild (h hFatal).symm

theorem FailsWith.ne_fatal {α : Type} {e : Except BridgeError α} {reason : Reason}
    {cause : Exhausted} (h : FailsWith (·.reason = reason) e) (hMild : reason ≠ .fatal) :
    e ≠ .error (.fatal cause) :=
  fun hFatal => hMild (h hFatal).symm

/-- The counter that a message advances stands at its end. -/
inductive Spent (b : Bridge) : Message → Exhausted → Prop
  | claimCursor {orchestrator : AccountAddress} {claim : Claim}
      (hLast : (b.store.claimCursor claim.kind).IsLast) :
      Spent b (.claim orchestrator claim) (.nonce (b.store.claimCursor claim.kind))
  | valsetCursor {orchestrator : AccountAddress} {nonce : Nonce} {signature : List UInt8}
      {validator : ValidatorAddress} {key : EthAddress}
      (hConfirmer : b.confirmer orchestrator = .ok (validator, key))
      (hLast : (b.store.confirmCursor validator .valset).IsLast) :
      Spent b (.confirmValset orchestrator nonce signature)
        (.nonce (b.store.confirmCursor validator .valset))
  | batchCursor {orchestrator : AccountAddress} {contract : EthAddress} {nonce : Nonce}
      {signature : List UInt8} {validator : ValidatorAddress} {key : EthAddress}
      (hConfirmer : b.confirmer orchestrator = .ok (validator, key))
      (hLast : (b.store.confirmCursor validator (.batch contract)).IsLast) :
      Spent b (.confirmBatch orchestrator contract nonce signature)
        (.nonce (b.store.confirmCursor validator (.batch contract)))
  | transferIds {sender : AccountAddress} {dest : EthAddress} {amount fee : Token}
      (hLast : b.store.lastTransferId.toNat + 1 = UInt64.size) :
      Spent b (.send sender dest amount fee) .transferIds
  | batchNonces {contract : EthAddress} (hLast : b.store.lastBatchNonce.IsLast) :
      Spent b (.buildBatch contract) (.nonce b.store.lastBatchNonce)
  | requestedNonces (hLast : b.store.newestValset.IsLast) :
      Spent b .requestValset (.nonce b.store.newestValset)
  | updatedNonces (hLast : b.store.newestValset.IsLast) :
      Spent b .updateValset (.nonce b.store.newestValset)

/-! ## Checks -/

/-- The only nonce without a following one is the largest. -/
theorem failsWith_following {n : Nonce} (h : n.IsLast → R (.nonce n)) :
    FailsWith (FatalBy R) (following n) := by
  rw [following, Nonce.next?]
  by_cases hRoom : n.toNat + 1 < UInt64.size
  · rw [if_pos hRoom]
    exact failsWith_ok _
  · rw [if_neg hRoom]
    refine failsWith_error fun cause hCause => ?_
    cases hCause
    have hSize : n.toNat < UInt64.size := n.value.toNat_lt_size
    exact h (show n.toNat + 1 = UInt64.size by omega)

theorem failsWith_signer (b : Bridge) (orchestrator : AccountAddress) :
    FailsWith (·.reason = .unauthorized) (b.signer orchestrator) := by
  rw [signer]
  cases b.registry.resolve orchestrator with
  | none => exact failsWith_error rfl
  | some validator =>
    dsimp only
    split
    · exact failsWith_error rfl
    · split
      · exact failsWith_error rfl
      · exact failsWith_ok _

theorem failsWith_confirmer (b : Bridge) (orchestrator : AccountAddress) :
    FailsWith (·.reason = .unauthorized) (b.confirmer orchestrator) := by
  refine .bind (failsWith_signer b orchestrator) fun ⟨validator, power⟩ => ?_
  dsimp only
  cases b.store.key? validator with
  | none => exact failsWith_error rfl
  | some key => exact failsWith_ok _

theorem failsWith_valsetAt (b : Bridge) (nonce : Nonce) :
    FailsWith (·.reason = .notFound) (b.valsetAt nonce) := by
  rw [valsetAt]
  cases b.store.valset? nonce with
  | none => exact failsWith_error rfl
  | some v => exact failsWith_ok _

theorem failsWith_batchAt (b : Bridge) (contract : EthAddress) (nonce : Nonce) :
    FailsWith (·.reason = .notFound) (b.batchAt contract nonce) := by
  rw [batchAt]
  cases b.store.batch? contract nonce with
  | none => exact failsWith_error rfl
  | some batch => exact failsWith_ok _

theorem failsWith_checkTurn {validator : ValidatorAddress} {stream : ConfirmStream}
    {nonces : List Nonce} {nonce : Nonce}
    (h : (b.store.confirmCursor validator stream).IsLast →
      R (.nonce (b.store.confirmCursor validator stream))) :
    FailsWith (FatalBy R) (b.checkTurn validator stream nonces nonce) := by
  refine .bind ?_ fun expected => ?_
  · rw [nextToConfirm]
    cases (nonces.filter (b.store.confirmCursor validator stream < ·)).min? with
    | none => exact failsWith_following h
    | some least => exact failsWith_ok _
  · split
    · exact failsWith_error (fatalBy_outOfSequence _ _)
    · exact failsWith_ok _

theorem failsWith_burn (ledger : Ledger) (account : AccountAddress) (amount : Amount)
    (denom : String) : FailsWith (·.reason = .invalid) (ledger.burn account amount denom) := by
  rw [Ledger.burn]
  cases (ledger.balance account denom).sub? amount with
  | some rest => exact failsWith_ok _
  | none => exact failsWith_error rfl

theorem failsWith_anchor (b : Bridge) : FailsWith (·.reason = .invalid) b.anchor := by
  rw [anchor]
  cases b.store.latestValset? with
  | some v => exact failsWith_ok _
  | none => exact failsWith_error rfl

theorem failsWith_currentValset
    (h : b.store.newestValset.IsLast → R (.nonce b.store.newestValset)) :
    FailsWith (FatalBy R) b.currentValset :=
  .bind (failsWith_following h) fun _ => .mapError fun _ => fatalBy_invalid _

/-! ## Checkpoints -/

theorem failsWith_checkpointOfValset {P : BridgeError → Prop}
    (hParams : b.params.validate = .ok ()) (v : Valset) :
    FailsWith P (b.checkpointOfValset v) := by
  obtain ⟨hash, hOk⟩ := exists_checkpointOfValset hParams v
  rw [hOk]
  exact failsWith_ok hash

theorem failsWith_checkpointOfBatch {P : BridgeError → Prop}
    (hParams : b.params.validate = .ok ()) (batch : Batch) :
    FailsWith P (b.checkpointOfBatch batch) := by
  obtain ⟨hash, hOk⟩ := exists_checkpointOfBatch hParams batch
  rw [hOk]
  exact failsWith_ok hash

/-! ## Messages -/

theorem refusesWith_judge (orchestrator : AccountAddress) (claim : Claim) (b : Bridge) :
    RefusesWith (FatalBy (Spent b (.claim orchestrator claim))) (judge orchestrator claim) b := by
  refine .get_bind (.check_bind (.mapError fun _ => fatalBy_invalid _) fun _ _ => ?_)
  refine .check_bind ((failsWith_signer b orchestrator).fatalBy (by decide))
    fun ⟨validator, power⟩ _ => ?_
  refine .check_bind (failsWith_following .claimCursor) fun expected _ => .ite (fun _ => ?_)
    fun _ => .ite (fun _ => ?_) fun _ => refusesWith_throw (fatalBy_outOfSequence _ _)
  · exact (refusesWith_recordLate _ _ _ _).mono (fatalBy_of_reason (by decide))
  · exact (refusesWith_vote _ _ _ _).mono (fatalBy_of_reason (by decide))

/-- Counting a claim does not change its refusal. -/
theorem RefusesWith.submitClaim {P : BridgeError → Prop} {orchestrator : AccountAddress}
    {claim : Claim} (h : RefusesWith P (judge orchestrator claim) b) :
    RefusesWith P (submitClaim orchestrator claim) b := by
  intro refusal b' hError
  rw [Bridge.submitClaim] at hError
  cases hJudge : judge orchestrator claim b with
  | ok outcome m =>
    rw [hJudge] at hError
    cases hError
  | error fault m =>
    rw [hJudge] at hError
    cases hError
    exact h hJudge

theorem refusesWith_confirmValset (hParams : b.params.validate = .ok ())
    (orchestrator : AccountAddress) (nonce : Nonce) (signature : List UInt8) :
    RefusesWith (FatalBy (Spent b (.confirmValset orchestrator nonce signature)))
      (confirmValset orchestrator nonce signature) b := by
  refine .get_bind (.check_bind ((failsWith_confirmer b orchestrator).fatalBy (by decide))
    fun ⟨validator, key⟩ hConfirmer => ?_)
  refine .check_bind ((failsWith_valsetAt b nonce).fatalBy (by decide)) fun v _ => ?_
  refine .ite (fun _ => (sure_pure _).refusesWith) fun _ => ?_
  refine .check_bind (failsWith_checkTurn (.valsetCursor hConfirmer)) fun _ _ => ?_
  refine .check_bind (failsWith_checkpointOfValset hParams v) fun hash _ => ?_
  refine .check_bind (.mapError fun _ => fatalBy_invalid _) fun _ _ =>
    .check_bind (.mapError fun _ => fatalBy_invalid _) fun sig _ => ?_
  exact ((sure_write _).bind fun _ => (sure_count _).bind fun _ => sure_pure _).refusesWith

theorem refusesWith_confirmBatch (hParams : b.params.validate = .ok ())
    (orchestrator : AccountAddress) (contract : EthAddress) (nonce : Nonce)
    (signature : List UInt8) :
    RefusesWith (FatalBy (Spent b (.confirmBatch orchestrator contract nonce signature)))
      (confirmBatch orchestrator contract nonce signature) b := by
  refine .get_bind (.check_bind ((failsWith_confirmer b orchestrator).fatalBy (by decide))
    fun ⟨validator, key⟩ hConfirmer => ?_)
  refine .check_bind ((failsWith_batchAt b contract nonce).fatalBy (by decide))
    fun batch _ => .guard (fun _ => fatalBy_invalid _) ?_
  refine .ite (fun _ => (sure_pure _).refusesWith) fun _ => ?_
  refine .check_bind (failsWith_checkTurn (.batchCursor hConfirmer)) fun _ _ => ?_
  refine .check_bind (failsWith_checkpointOfBatch hParams batch) fun hash _ => ?_
  refine .check_bind (.mapError fun _ => fatalBy_invalid _) fun _ _ =>
    .check_bind (.mapError fun _ => fatalBy_invalid _) fun sig _ => ?_
  exact ((sure_write _).bind fun _ => (sure_count _).bind fun _ => sure_pure _).refusesWith

theorem refusesWith_registerKey (validator : ValidatorAddress) (key : EthAddress)
    (signature : List UInt8) (b : Bridge) :
    RefusesWith (FatalBy R) (registerKey validator key signature) b := by
  refine .get_bind (.guard (fun _ => fatalBy_unauthorized _) ?_)
  refine .check_bind (.mapError fun _ => fatalBy_invalid _) fun _ _ => ?_
  refine .check_bind (.mapError fun _ => fatalBy_invalid _) fun _ _ => ?_
  refine .check_bind ?_ fun _ _ => (sure_write _).refusesWith
  rw [checkFree]
  cases b.store.otherOwner? validator key with
  | some owner => exact failsWith_error (fatalBy_invalid _)
  | none => exact failsWith_ok _

theorem refusesWith_send (sender : AccountAddress) (dest : EthAddress) (amount fee : Token)
    (b : Bridge) :
    RefusesWith (FatalBy (Spent b (.send sender dest amount fee))) (send sender dest amount fee)
      b := by
  refine .get_bind (.guard (fun _ => fatalBy_invalid _) (.guard (fun hLast cause hCause => ?_) ?_))
  · cases hCause
    exact .transferIds hLast
  · refine .check_bind (.mapError fun _ => fatalBy_invalid _) fun _ _ =>
      .check_bind (.mapError fun _ => fatalBy_invalid _) fun total _ => ?_
    refine .check_bind ((failsWith_burn _ _ _ _).fatalBy (by decide)) fun ledger _ => ?_
    exact ((sure_set _).bind fun _ => (sure_write _).bind fun _ => sure_pure _).refusesWith

theorem refusesWith_buildBatch (hParams : b.params.validate = .ok ()) (contract : EthAddress) :
    RefusesWith (FatalBy (Spent b (.buildBatch contract))) (buildBatch contract) b := by
  refine .get_bind (.check_bind (.mapError fun _ => fatalBy_invalid _) fun _ _ => ?_)
  refine .guard (fun _ => fatalBy_invalid _) ?_
  refine .check_bind ((failsWith_anchor b).fatalBy (by decide)) fun v _ => ?_
  refine .check_bind (failsWith_checkpointOfValset hParams v) fun checkpoint _ => ?_
  refine .check_bind (failsWith_following .batchNonces) fun nonce _ => ?_
  refine .check_bind (.mapError fun _ => fatalBy_invalid _) fun batch _ => ?_
  refine .check_bind (failsWith_checkpointOfBatch hParams batch) fun _ _ => ?_
  exact ((sure_write _).bind fun _ => (sure_count _).bind fun _ => sure_pure _).refusesWith

theorem refusesWith_storeValset {P : BridgeError → Prop} (hParams : b.params.validate = .ok ())
    (v : Valset) : RefusesWith P (storeValset v) b :=
  .get_bind (.check_bind (failsWith_checkpointOfValset hParams v) fun _ _ =>
    (sure_write _).refusesWith)

theorem refusesWith_requestValset (hParams : b.params.validate = .ok ()) :
    RefusesWith (FatalBy (Spent b .requestValset)) requestValset b :=
  .get_bind (.guard (fun _ => fatalBy_invalid _)
    (.check_bind (failsWith_currentValset .requestedNonces) fun v _ =>
      .bind_sure (refusesWith_storeValset hParams v) fun _ => sure_pure _))

theorem refusesWith_updateValset (hParams : b.params.validate = .ok ()) :
    RefusesWith (FatalBy (Spent b .updateValset)) updateValset b := by
  refine .get_bind (.ite (fun _ => (sure_pure _).refusesWith) fun _ => ?_)
  refine .check_bind (failsWith_currentValset .updatedNonces) fun v _ => ?_
  refine .ite (fun _ => (sure_pure _).refusesWith) fun _ => ?_
  exact .bind_sure (refusesWith_storeValset hParams v) fun _ => sure_pure _

theorem refusesWith_reportMissedValset (nonce : Nonce) (b : Bridge) :
    RefusesWith (FatalBy R) (reportMissedValset nonce) b :=
  .get_bind (.check_bind ((failsWith_valsetAt b nonce).fatalBy (by decide)) fun _ _ =>
    ((sure_report _).bind fun _ => sure_pure _).refusesWith)

theorem refusesWith_reportMissedBatch (contract : EthAddress) (nonce : Nonce) (b : Bridge) :
    RefusesWith (FatalBy R) (reportMissedBatch contract nonce) b :=
  .get_bind (.check_bind ((failsWith_batchAt b contract nonce).fatalBy (by decide))
    fun _ _ => ((sure_report _).bind fun _ => sure_pure _).refusesWith)

/-- **Fatal refusals of messages.** Under valid settings a message is fatal only where the counter
that it advances is spent. -/
theorem refusesWith_handle (hParams : b.params.validate = .ok ()) (message : Message) :
    RefusesWith (FatalBy (Spent b message)) (handle message) b := by
  cases message with
  | claim orchestrator claim => exact (refusesWith_judge orchestrator claim b).submitClaim.map _
  | confirmValset orchestrator nonce signature =>
    exact (refusesWith_confirmValset hParams orchestrator nonce signature).map _
  | confirmBatch orchestrator contract nonce signature =>
    exact (refusesWith_confirmBatch hParams orchestrator contract nonce signature).map _
  | registerKey validator key signature =>
    exact (refusesWith_registerKey validator key signature b).map _
  | send sender dest amount fee => exact (refusesWith_send sender dest amount fee b).map _
  | buildBatch contract => exact (refusesWith_buildBatch hParams contract).map _
  | requestValset => exact (refusesWith_requestValset hParams).map _
  | updateValset => exact (refusesWith_updateValset hParams).map _
  | reportMissedValset nonce => exact (refusesWith_reportMissedValset nonce b).map _
  | reportMissedBatch contract nonce => exact (refusesWith_reportMissedBatch contract nonce b).map _

theorem refusesWith_stake (change : Staking) (b : Bridge) :
    RefusesWith (·.reason = .notFound) (stake change) b := by
  have hChange (validator : ValidatorAddress) (f : Standing → Standing) :
      FailsWith (·.reason = .notFound) (b.registry.change validator f) := by
    rw [Registry.change]
    cases b.registry.standings.find? validator with
    | some standing => exact failsWith_ok _
    | none => exact failsWith_error rfl
  refine .get_bind (.check_bind ?_ fun _ _ => (sure_set _).refusesWith)
  cases change with
  | bond validator power orchestrator => exact failsWith_ok _
  | setPower validator power => exact hChange validator _
  | unbond validator => exact hChange validator _

theorem refusesWith_initGenesis (g : Genesis) (b : Bridge) :
    RefusesWith (·.reason = .invalid) (initGenesis g) b :=
  .check_bind (.mapError fun _ => rfl) fun _ _ =>
    ((sure_write _).bind fun _ => sure_modify _).refusesWith

/-! ## Lives -/

/-- What happens to a bridge: an event, or the loading of a document into whatever is stored. -/
inductive Episode where
  | event (event : Event)
  | load (g : Genesis)

def pass (b : Bridge) : Episode → Bridge
  | .event event => b.after event
  | .load g => left (initGenesis g) b

def through (b : Bridge) (episodes : List Episode) : Bridge :=
  episodes.foldl pass b

theorem validate_pass (h : b.params.validate = .ok ()) (episode : Episode) :
    (b.pass episode).params.validate = .ok () := by
  cases episode with
  | event event =>
    rw [pass, params_step (step_after b event)]
    exact h
  | load g =>
    rw [pass, left]
    cases hLoad : initGenesis g b with
    | ok _ loaded =>
      obtain ⟨hValid, rfl⟩ := initGenesis_eq_ok hLoad
      exact (Genesis.validate_eq_ok.mp hValid).params
    | error refusal kept =>
      rw [clean_initGenesis g hLoad]
      exact h

theorem validate_through (h : b.params.validate = .ok ()) (episodes : List Episode) :
    (b.through episodes).params.validate = .ok () := by
  induction episodes generalizing b with
  | nil => exact h
  | cons episode episodes ih => exact ih (validate_pass h episode)

theorem valsetCheckpoint_eq {nonce : Nonce} {v : Valset} (h : b.store.valset? nonce = some v) :
    b.valsetCheckpoint nonce = b.checkpointOfValset v := by
  rw [valsetCheckpoint, valsetAt, h]
  rfl

theorem batchCheckpoint_eq {contract : EthAddress} {nonce : Nonce} {batch : Batch}
    (h : b.store.batch? contract nonce = some batch) :
    b.batchCheckpoint contract nonce = b.checkpointOfBatch batch := by
  rw [batchCheckpoint, batchAt, h]
  rfl

/-- **Exhaustion.** Take a bridge with valid settings and any store, and let any messages, changes
of the validators and documents come, also documents over what is stored. A message is then refused
as fatal only where the counter that it advances stands at the largest number: the cursor of the
claim, the cursor of the validator on the stream, the nonce of the newest signer set, the last batch
nonce or the last transfer id. The question for the signer set of the moment is fatal only where the
newest nonce is the largest; changes of the validators, documents and the questions for checkpoints
never are. Every stored signer set and every stored batch has a checkpoint. -/
theorem exhaustion_run (origin : Bridge) (hValid : origin.params.validate = .ok ())
    (episodes : List Episode) :
    let b := origin.through episodes
    (∀ message cause b', handle message b = .error (.fatal cause) b' → Spent b message cause) ∧
    (∀ change cause b', stake change b ≠ .error (.fatal cause) b') ∧
    (∀ g cause b', initGenesis g b ≠ .error (.fatal cause) b') ∧
    (∀ cause, b.currentValset = .error (.fatal cause) →
      b.store.newestValset.IsLast ∧ cause = .nonce b.store.newestValset) ∧
    (∀ nonce cause, b.valsetCheckpoint nonce ≠ .error (.fatal cause)) ∧
    (∀ contract nonce cause, b.batchCheckpoint contract nonce ≠ .error (.fatal cause)) ∧
    (∀ nonce v, b.store.valset? nonce = some v → ∃ hash, b.valsetCheckpoint nonce = .ok hash) ∧
    (∀ contract nonce batch, b.store.batch? contract nonce = some batch →
      ∃ hash, b.batchCheckpoint contract nonce = .ok hash) := by
  intro b
  have hParams : b.params.validate = .ok () := validate_through hValid episodes
  refine ⟨fun message cause b' h => refusesWith_handle hParams message h cause rfl,
    fun change _ _ => (refusesWith_stake change b).ne_fatal (by decide),
    fun g _ _ => (refusesWith_initGenesis g b).ne_fatal (by decide),
    fun cause h => ?_, fun nonce cause => ?_, fun contract nonce cause => ?_,
    fun nonce v h => ?_, fun contract nonce batch h => ?_⟩
  · exact failsWith_currentValset (R := fun cause =>
      b.store.newestValset.IsLast ∧ cause = .nonce b.store.newestValset)
      (fun hLast => ⟨hLast, rfl⟩) h cause rfl
  · have hFails : FailsWith (·.reason = .notFound) (b.valsetCheckpoint nonce) :=
      (failsWith_valsetAt b nonce).bind (failsWith_checkpointOfValset hParams)
    exact hFails.ne_fatal (by decide)
  · have hFails : FailsWith (·.reason = .notFound) (b.batchCheckpoint contract nonce) :=
      (failsWith_batchAt b contract nonce).bind (failsWith_checkpointOfBatch hParams)
    exact hFails.ne_fatal (by decide)
  · rw [valsetCheckpoint_eq h]
    exact exists_checkpointOfValset hParams v
  · rw [batchCheckpoint_eq h]
    exact exists_checkpointOfBatch hParams batch

/-- A document with one signer set and with the cursor of executed batches at the largest nonce. -/
def fullCursor : Genesis :=
  { Genesis.blank .default with
    valsets := [⟨⟨1⟩, [⟨4294967295, ⟨.ofNat 20 7⟩⟩]⟩]
    claimCursors := [⟨.batchExecuted, ⟨18446744073709551615⟩⟩] }

/-- A validator is bonded, and the document is loaded over what is stored. -/
def bondAndLoad : List Episode :=
  [.event (.staking (.bond ⟨.ofNat 20 1⟩ 10 ⟨.ofNat 20 3⟩)), .load fullCursor]

/-- The validator claims that the first batch was executed. -/
def firstExecution : Message :=
  .claim ⟨.ofNat 20 3⟩ (.batchExecuted ⟨1⟩ ⟨1⟩ ⟨.ofNat 20 8⟩)

/-- The cursor of executed batches is spent, and the loaded signer set has a checkpoint. -/
theorem exhaustion_of_fullCursor :
    let b := (default : Bridge).through bondAndLoad
    (∃ b', handle firstExecution b = .error (.fatal (.nonce ⟨18446744073709551615⟩)) b') ∧
      Spent b firstExecution (.nonce ⟨18446744073709551615⟩) ∧
      ∃ hash, b.valsetCheckpoint ⟨1⟩ = .ok hash := by
  intro b
  have hValid : (default : Bridge).params.validate = .ok () := by decide +kernel
  obtain ⟨hMessages, -, -, -, -, -, hCheckpoints, -⟩ :=
    exhaustion_run default hValid bondAndLoad
  have hFatal : ∃ b', handle firstExecution b =
      .error (.fatal (.nonce ⟨18446744073709551615⟩)) b' := ⟨_, by with_unfolding_all rfl⟩
  have hStored : b.store.valset? ⟨1⟩ = some ⟨⟨1⟩, [⟨4294967295, ⟨.ofNat 20 7⟩⟩]⟩ := by
    decide +kernel
  obtain ⟨b', hFatal⟩ := hFatal
  exact ⟨⟨b', hFatal⟩, hMessages _ _ _ hFatal, hCheckpoints ⟨1⟩ _ hStored⟩

end Bridge

end TokenBridge

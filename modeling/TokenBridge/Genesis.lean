import TokenBridge.Attestation
import TokenBridge.Batch.Basic
import TokenBridge.Confirmation
import TokenBridge.Json.Writer
import TokenBridge.Params

/-!
# Genesis documents

All that a bridge keeps, as one document. A document can be written as text and read back, and is
checked as a whole before anything of it is loaded.
-/

namespace TokenBridge

/-- The key that a validator signs with on Ethereum. -/
structure KeyRegistration where
  validator : ValidatorAddress
  address : EthAddress
deriving DecidableEq, Repr

instance : JsonForm KeyRegistration where
  toJson r := .record [("validator", toJson r.validator), ("eth_address", toJson r.address)]
  ofJson? value := do
    let fields ← value.record? ["validator", "eth_address"]
    some { validator := ← Json.required? "validator" fields
           address := ← Json.required? "eth_address" fields }

/-- The last nonce agreed on for a kind of claims. -/
structure ClaimCursor where
  kind : ClaimKind
  nonce : Nonce
deriving DecidableEq, Repr

instance : JsonForm ClaimCursor where
  toJson c := .record [("claim_type", toJson c.kind), ("nonce", toJson c.nonce)]
  ofJson? value := do
    let fields ← value.record? ["claim_type", "nonce"]
    some { kind := ← Json.required? "claim_type" fields
           nonce := ← Json.required? "nonce" fields }

/-- The last nonce that a validator confirmed on a stream. -/
structure ConfirmCursor where
  validator : ValidatorAddress
  stream : ConfirmStream
  nonce : Nonce
deriving DecidableEq, Repr

instance : JsonForm ConfirmCursor where
  toJson c :=
    .record [("validator", toJson c.validator), ("stream", toJson c.stream),
      ("nonce", toJson c.nonce)]
  ofJson? value := do
    let fields ← value.record? ["validator", "stream", "nonce"]
    some { validator := ← Json.required? "validator" fields
           stream := ← Json.required? "stream" fields
           nonce := ← Json.required? "nonce" fields }

/-- All that a bridge keeps. -/
structure Genesis where
  params : Params
  valsets : List Valset
  observedValset : Option Nonce
  valsetConfirms : List ValsetConfirm
  batches : List Batch
  batchConfirms : List BatchConfirm
  attestations : List Attestation
  transfers : List Transfer
  keys : List KeyRegistration
  claimCursors : List ClaimCursor
  confirmCursors : List ConfirmCursor
  lastTransferId : UInt64
  lastBatchNonce : Nonce
deriving DecidableEq, Repr

namespace Genesis

/-- The document of a bridge to which nothing has happened. -/
def blank (params : Params) : Genesis :=
  ⟨params, [], none, [], [], [], [], [], [], [], [], 0, .zero⟩

/-! ## Validation -/

/-- Refuses the first element that fails a test. -/
def requireEach {α : Type} (test : α → Bool) (fault : α → Invalid) : List α → Except Invalid Unit
  | [] => .ok ()
  | a :: rest => if test a then requireEach test fault rest else .error (fault a)

/-- The checks on one batch: its nonce has been given out. -/
def validateBatch (g : Genesis) (b : Batch) : Except Invalid Unit :=
  if g.lastBatchNonce < b.nonce then .error (.batchAboveLast b.nonce g.lastBatchNonce) else .ok ()

/-- The checks on one pending transfer: it is valid and its id has been given out. -/
def validateTransfer (g : Genesis) (tx : Transfer) : Except Invalid Unit := do
  tx.validate
  if tx.id = 0 ∨ g.lastTransferId.toNat < tx.id.toNat then throw (.transferId tx.id)

/-- The checks on one attestation: its claim is valid and its fingerprint is that of the claim. -/
def validateAttestation (a : Attestation) : Except Invalid Unit := do
  a.claim.validate
  if a.details ≠ a.claim.fingerprint then throw (.staleDetails a.claim.kind a.claim.nonce)

/-- The checks on a whole document: valid parts, no key twice, and confirmations only of what is
there. -/
def validate (g : Genesis) : Except Invalid Unit := do
  g.params.validate
  let valsets ←
    distinct Valset.nonce Valset.validate (fun v => .repeatedValset v.nonce) [] g.valsets
  requireEach (fun c => valsets.contains c.nonce) (fun c => .confirmWithoutValset c.nonce)
    g.valsetConfirms
  let batches ←
    distinct (fun b => (b.contract, b.nonce)) g.validateBatch
      (fun b => .repeatedBatch b.nonce b.contract) [] g.batches
  requireEach (fun c => batches.contains (c.contract, c.nonce))
    (fun c => .confirmWithoutBatch c.nonce c.contract) g.batchConfirms
  let _ ← distinct Transfer.id g.validateTransfer (fun tx => .transferId tx.id) [] g.transfers
  g.attestations.forM validateAttestation
  let _ ←
    distinct KeyRegistration.address (fun r => r.address.requireNonZero.mapError .malformed)
      (fun r => .repeatedKey r.address) [] g.keys

/-! ## Text form -/

instance : JsonForm Genesis where
  toJson g :=
    .record [("params", toJson g.params), ("valsets", toJson g.valsets),
      ("observed_valset_nonce", toJson g.observedValset),
      ("valset_confirms", toJson g.valsetConfirms), ("batches", toJson g.batches),
      ("batch_confirms", toJson g.batchConfirms), ("attestations", toJson g.attestations),
      ("pending_transfers", toJson g.transfers), ("eth_addresses", toJson g.keys),
      ("claim_cursors", toJson g.claimCursors), ("confirm_cursors", toJson g.confirmCursors),
      ("last_transfer_id", toJson g.lastTransferId), ("last_batch_nonce", toJson g.lastBatchNonce)]
  ofJson? value := do
    let fields ← value.record?
      ["params", "valsets", "observed_valset_nonce", "valset_confirms", "batches",
        "batch_confirms", "attestations", "pending_transfers", "eth_addresses", "claim_cursors",
        "confirm_cursors", "last_transfer_id", "last_batch_nonce"]
    some { params := ← Json.optional? .default "params" fields
           valsets := ← Json.optional? [] "valsets" fields
           observedValset := ← Json.optional? none "observed_valset_nonce" fields
           valsetConfirms := ← Json.optional? [] "valset_confirms" fields
           batches := ← Json.optional? [] "batches" fields
           batchConfirms := ← Json.optional? [] "batch_confirms" fields
           attestations := ← Json.optional? [] "attestations" fields
           transfers := ← Json.optional? [] "pending_transfers" fields
           keys := ← Json.optional? [] "eth_addresses" fields
           claimCursors := ← Json.optional? [] "claim_cursors" fields
           confirmCursors := ← Json.optional? [] "confirm_cursors" fields
           lastTransferId := ← Json.optional? 0 "last_transfer_id" fields
           lastBatchNonce := ← Json.optional? .zero "last_batch_nonce" fields }

def print (g : Genesis) : List Char :=
  (toJson g).pretty 0

/-- The document of a text. It is not validated. -/
def parse (s : List Char) : Except Invalid Genesis :=
  match (Json.parse? s).bind ofJson? with
  | some g => .ok g
  | none => .error (.unreadable "genesis")

end Genesis

end TokenBridge

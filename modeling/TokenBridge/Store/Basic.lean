import TokenBridge.Attestation
import TokenBridge.Batch.Basic
import TokenBridge.Confirmation
import TokenBridge.Table.Basic
import TokenBridge.Valset

/-!
# The store

What the bridge remembers between messages, each thing under its natural key. Storing a thing puts
it in place of what was under its key; nothing is checked here.
-/

namespace TokenBridge

structure Store where
  attestations : Table AttestationKey Attestation
  claimCursors : Table ClaimKind Nonce
  confirmCursors : Table (ValidatorAddress × ConfirmStream) Nonce
  valsets : Table Nonce Valset
  observedValset : Option Nonce
  valsetConfirms : Table (Nonce × ValidatorAddress) ValsetConfirm
  batches : Table (EthAddress × Nonce) Batch
  lastBatchNonce : Nonce
  batchConfirms : Table (EthAddress × Nonce × ValidatorAddress) BatchConfirm
  transfers : Table UInt64 Transfer
  lastTransferId : UInt64
  keys : Table ValidatorAddress EthAddress

namespace Store

def empty : Store where
  attestations := .empty
  claimCursors := .empty
  confirmCursors := .empty
  valsets := .empty
  observedValset := none
  valsetConfirms := .empty
  batches := .empty
  lastBatchNonce := .zero
  batchConfirms := .empty
  transfers := .empty
  lastTransferId := 0
  keys := .empty

instance : Inhabited Store :=
  ⟨empty⟩

/-! ## Claims -/

/-- The attestations of a kind at a nonce, in order of fingerprint. -/
def attestationsAt (s : Store) (kind : ClaimKind) (nonce : Nonce) : List Attestation :=
  (s.attestations.filter fun key _ => key.kind == kind && key.nonce == nonce).values

def putAttestation (s : Store) (a : Attestation) : Store :=
  { s with attestations := s.attestations.insert a.key a }

def claimCursor (s : Store) (kind : ClaimKind) : Nonce :=
  (s.claimCursors.find? kind).getD .zero

def setClaimCursor (s : Store) (kind : ClaimKind) (nonce : Nonce) : Store :=
  { s with claimCursors := s.claimCursors.insert kind nonce }

/-! ## Confirmations -/

def confirmCursor (s : Store) (validator : ValidatorAddress) (stream : ConfirmStream) : Nonce :=
  (s.confirmCursors.find? (validator, stream)).getD .zero

def setConfirmCursor (s : Store) (validator : ValidatorAddress) (stream : ConfirmStream)
    (nonce : Nonce) : Store :=
  { s with confirmCursors := s.confirmCursors.insert (validator, stream) nonce }

def valsetConfirm? (s : Store) (nonce : Nonce) (validator : ValidatorAddress) :
    Option ValsetConfirm :=
  s.valsetConfirms.find? (nonce, validator)

/-- The confirmations of a signer set, in order of validator. -/
def valsetConfirmsOf (s : Store) (nonce : Nonce) : List ValsetConfirm :=
  (s.valsetConfirms.filter fun key _ => key.1 == nonce).values

def putValsetConfirm (s : Store) (c : ValsetConfirm) : Store :=
  { s with valsetConfirms := s.valsetConfirms.insert (c.nonce, c.validator) c }

def deleteValsetConfirms (s : Store) (nonce : Nonce) : Store :=
  { s with valsetConfirms := s.valsetConfirms.filter fun key _ => key.1 != nonce }

def batchConfirm? (s : Store) (contract : EthAddress) (nonce : Nonce)
    (validator : ValidatorAddress) : Option BatchConfirm :=
  s.batchConfirms.find? (contract, nonce, validator)

/-- The confirmations of a batch, in order of validator. -/
def batchConfirmsOf (s : Store) (contract : EthAddress) (nonce : Nonce) : List BatchConfirm :=
  (s.batchConfirms.filter fun key _ => key.1 == contract && key.2.1 == nonce).values

def putBatchConfirm (s : Store) (c : BatchConfirm) : Store :=
  { s with batchConfirms := s.batchConfirms.insert (c.contract, c.nonce, c.validator) c }

def deleteBatchConfirms (s : Store) (contract : EthAddress) (nonce : Nonce) : Store :=
  { s with
    batchConfirms :=
      s.batchConfirms.filter fun key _ => !(key.1 == contract && key.2.1 == nonce) }

/-! ## Signer sets -/

def valset? (s : Store) (nonce : Nonce) : Option Valset :=
  s.valsets.find? nonce

def latestValset? (s : Store) : Option Valset :=
  s.valsets.values.getLast?

def putValset (s : Store) (v : Valset) : Store :=
  { s with valsets := s.valsets.insert v.nonce v }

def deleteValset (s : Store) (nonce : Nonce) : Store :=
  { s with valsets := s.valsets.erase nonce }

/-! ## Batches and transfers -/

def batch? (s : Store) (contract : EthAddress) (nonce : Nonce) : Option Batch :=
  s.batches.find? (contract, nonce)

/-- The batches that wait for their execution, in order of contract and nonce. -/
def pendingBatches (s : Store) : List Batch :=
  s.batches.values.filter Batch.isPending

def pendingBatchesOf (s : Store) (contract : EthAddress) : List Batch :=
  s.pendingBatches.filter fun b => b.contract == contract

def putBatch (s : Store) (b : Batch) : Store :=
  { s with batches := s.batches.insert (b.contract, b.nonce) b }

def deleteBatch (s : Store) (contract : EthAddress) (nonce : Nonce) : Store :=
  { s with batches := s.batches.erase (contract, nonce) }

/-- The transfers of a contract that wait for a batch, in order of id. -/
def transfersOf (s : Store) (contract : EthAddress) : List Transfer :=
  s.transfers.values.filter fun tx => tx.contract == contract

/-- Puts a transfer into the pool. -/
def putTransfer (s : Store) (tx : Transfer) : Store :=
  { s with transfers := s.transfers.insert tx.id tx }

def removeTransfer (s : Store) (id : UInt64) : Store :=
  { s with transfers := s.transfers.erase id }

/-- Queues a new transfer, whose id is the last one given out. -/
def queue (s : Store) (tx : Transfer) : Store :=
  { s.putTransfer tx with lastTransferId := tx.id }

/-- Moves transfers from the pool into a new batch, whose nonce is the last one given out. -/
def takeBatch (s : Store) (b : Batch) : Store :=
  let s := b.elements.foldl (fun s tx => s.removeTransfer tx.id) s
  { s.putBatch b with lastBatchNonce := b.nonce }

/-! ## Keys -/

def key? (s : Store) (validator : ValidatorAddress) : Option EthAddress :=
  s.keys.find? validator

def putKey (s : Store) (validator : ValidatorAddress) (key : EthAddress) : Store :=
  { s with keys := s.keys.insert validator key }

/-- The first validator other than this one that registered the key. -/
def otherOwner? (s : Store) (validator : ValidatorAddress) (key : EthAddress) :
    Option ValidatorAddress :=
  (s.keys.entries.find? fun entry => entry.2 == key && entry.1 != validator).map Prod.fst

end Store

end TokenBridge

import TokenBridge.Store.Basic

/-!
# Executions on Ethereum

What the store does once an execution has been agreed on. The contract executes batches of a token
in rising order, so the pending batches below an executed one can never be executed: they are
cancelled and their transfers go back to the pool. A signer set that the contract holds makes the
older ones useless, and they are forgotten together with their confirmations.
-/

namespace TokenBridge.Store

/-- Marks a batch as executed, if it is stored and pending. -/
def closeBatch (s : Store) (contract : EthAddress) (nonce : Nonce) : Store :=
  match s.batch? contract nonce with
  | some b => if b.isPending then s.putBatch { b with status := .executed } else s
  | none => s

/-- Returns the transfers of a batch to the pool and forgets the batch. -/
def cancelBatch (s : Store) (b : Batch) : Store :=
  ((b.elements.foldl putTransfer s).deleteBatchConfirms b.contract b.nonce).deleteBatch
    b.contract b.nonce

def superseded (s : Store) (contract : EthAddress) (nonce : Nonce) : List Batch :=
  (s.pendingBatchesOf contract).filter fun b => b.nonce < nonce

/-- A batch was executed. The batches below it are cancelled even if it is unknown here. -/
def executeBatch (s : Store) (contract : EthAddress) (nonce : Nonce) : Store :=
  let s := s.closeBatch contract nonce
  (s.superseded contract nonce).foldl cancelBatch s

/-- Forgets a signer set and its confirmations. -/
def dropValset (s : Store) (nonce : Nonce) : Store :=
  (s.deleteValsetConfirms nonce).deleteValset nonce

def olderValsets (s : Store) (nonce : Nonce) : List Nonce :=
  (s.valsets.values.map Valset.nonce).filter (· < nonce)

/-- The contract took over a signer set. An unknown set, or one that is not newer than the observed
one, changes nothing. -/
def executeValset (s : Store) (nonce : Nonce) : Store :=
  if (s.valset? nonce).isNone || s.observedValset.any (nonce ≤ ·) then s
  else (s.olderValsets nonce).foldl dropValset { s with observedValset := some nonce }

end TokenBridge.Store

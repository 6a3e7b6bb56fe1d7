import TokenBridge.Bridge.Basic
import TokenBridge.Denom

/-!
# Withdrawals

A transfer to Ethereum burns amount and fee at once and waits in the pool. A batch takes the waiting
transfers of one contract with the highest fees, and is bound to the newest signer set.
-/

namespace TokenBridge.Bridge

def send (sender : AccountAddress) (dest : EthAddress) (amount fee : Token) : Handler UInt64 := do
  let b ← get
  if sender.isZero then throw (.invalid .noSender)
  let last := b.store.lastTransferId
  if last.toNat + 1 = UInt64.size then throw (.fatal .transferIds)
  let tx : Transfer := ⟨last + 1, sender, dest, amount, fee⟩
  check (tx.validate.mapError .invalid)
  let total ← check ((amount.add fee).mapError fun fault => .invalid (.malformed fault))
  let ledger ←
    check (b.ledger.burn sender total.amount (voucherDenom amount.contract amount.symbol))
  set { b with ledger }
  write fun s => s.queue tx
  return tx.id

/-- The transfers that go into the next batch of a contract: those with the highest fees, the older
ones first where fees are equal, and no more than fit. -/
def selection (b : Bridge) (contract : EthAddress) : List Transfer :=
  ((b.store.transfersOf contract).mergeSort Transfer.feeLe).take b.params.batchSize.toNat

/-- The newest signer set, which a batch is bound to. -/
def anchor (b : Bridge) : Except BridgeError Valset :=
  match b.store.latestValset? with
  | some v => .ok v
  | none => .error (.invalid .noAnchor)

/-- Makes the next batch of a contract. Its checkpoint is computed before anything is stored. -/
def buildBatch (contract : EthAddress) : Handler Batch := do
  let b ← get
  check (contract.requireNonZero.mapError fun fault => .invalid (.malformed fault))
  if (b.store.transfersOf contract).isEmpty then throw (.invalid (.emptyPool contract))
  let v ← check b.anchor
  let valsetCheckpoint ← check (b.checkpointOfValset v)
  let nonce ← check (following b.store.lastBatchNonce)
  let batch ←
    check ((Batch.make nonce contract (b.selection contract) valsetCheckpoint).mapError .invalid)
  let _ ← check (b.checkpointOfBatch batch)
  write fun s => s.takeBatch batch
  count .batchBuilt
  return batch

end TokenBridge.Bridge

import TokenBridge.Batch.Status
import TokenBridge.Transfer

/-!
# Batches

Transfers of one token that are executed together on Ethereum. Elements, their order and the signer
set checkpoint they are bound to are fixed when a batch is made; only its status changes.
-/

namespace TokenBridge

/-- Transfers of one token, bound to a signer set. -/
structure Batch where
  nonce : Nonce
  elements : List Transfer
  totalFee : Token
  contract : EthAddress
  valsetCheckpoint : Digest
  status : BatchStatus
deriving DecidableEq, Repr

namespace Batch

/-- Adds the fees of some transfers, which must all be of the given contract. -/
def sumFees (contract : EthAddress) : Token → List Transfer → Except Invalid Token
  | sum, [] => .ok sum
  | sum, tx :: rest => do
    if tx.contract ≠ contract then throw (.foreignTransfer tx.id tx.contract contract)
    let sum ← (sum.add tx.fee).mapError .malformed
    sumFees contract sum rest

/-- The pending batch of some transfers, in their order. -/
def make (nonce : Nonce) (contract : EthAddress) (elements : List Transfer)
    (valsetCheckpoint : Digest) : Except Invalid Batch := do
  contract.requireNonZero.mapError .malformed
  match elements with
  | [] => throw .noElements
  | first :: _ =>
    let totalFee ← sumFees contract first.fee.zeroOf elements
    return { nonce, elements, totalFee, contract, valsetCheckpoint, status := .pending }

def isPending (b : Batch) : Bool :=
  b.status == .pending

/-- Takes the one step of a batch's life. -/
def moveTo (b : Batch) (target : BatchStatus) : Except Invalid Batch :=
  if b.status.canBecome target then .ok { b with status := target }
  else .error (.statusStep b.nonce b.status target)

/-! ## Checkpoints -/

/-- The bytes whose hash the signers sign, under the id of the bridge. -/
def preimage (b : Batch) (bridgeId : String) : Except TagTooLong (List UInt8) := do
  let id ← Abi.tag bridgeId
  let kind ← Abi.tag "transactionBatch"
  return Abi.encode [.word id, .word kind, .word b.valsetCheckpoint,
    .array (b.elements.map fun tx => .amount tx.amount.amount),
    .array (b.elements.map fun tx => .address tx.dest),
    .array (b.elements.map fun tx => .amount tx.fee.amount),
    .nonce b.nonce, .address b.contract]

def checkpoint (b : Batch) (bridgeId : String) : Except TagTooLong Digest :=
  (b.preimage bridgeId).map keccak256

instance : JsonForm Batch where
  toJson b :=
    .record [("nonce", toJson b.nonce), ("elements", toJson b.elements),
      ("total_fee", toJson b.totalFee), ("token_contract", toJson b.contract),
      ("valset_checkpoint", toJson b.valsetCheckpoint), ("status", toJson b.status)]
  ofJson? value := do
    let fields ← value.record?
      ["nonce", "elements", "total_fee", "token_contract", "valset_checkpoint", "status"]
    some { nonce := ← Json.required? "nonce" fields
           elements := ← Json.required? "elements" fields
           totalFee := ← Json.required? "total_fee" fields
           contract := ← Json.required? "token_contract" fields
           valsetCheckpoint := ← Json.required? "valset_checkpoint" fields
           status := ← Json.required? "status" fields }

end Batch

end TokenBridge

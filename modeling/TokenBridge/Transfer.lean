import TokenBridge.Error
import TokenBridge.Token

/-!
# Transfers

A withdrawal to Ethereum: an amount for a destination and a fee for whoever relays it, both of one
asset.
-/

namespace TokenBridge

/-- A withdrawal request. -/
structure Transfer where
  id : UInt64
  sender : AccountAddress
  dest : EthAddress
  amount : Token
  fee : Token
deriving DecidableEq, Repr

namespace Transfer

def contract (tx : Transfer) : EthAddress :=
  tx.amount.contract

/-- The destination is named, amount and fee are of one asset, and the amount is not zero. -/
def validate (tx : Transfer) : Except Invalid Unit := do
  tx.dest.requireNonZero.mapError .malformed
  tx.amount.validate.mapError .malformed
  tx.fee.validate.mapError .malformed
  if !tx.amount.sameAsset tx.fee then throw (.feeAsset tx.fee.contract tx.amount.contract)
  if tx.amount.amount = .zero then throw .zeroTransfer

/-- The order of selection: higher fees first, then older transfers first. -/
def feeLe (a b : Transfer) : Bool :=
  decide (b.fee.amount.toNat < a.fee.amount.toNat) ||
    (a.fee.amount == b.fee.amount && decide (a.id.toNat ≤ b.id.toNat))

instance : JsonForm Transfer where
  toJson tx :=
    .record [("id", toJson tx.id), ("sender", toJson tx.sender), ("dest", toJson tx.dest),
      ("amount", toJson tx.amount), ("bridge_fee", toJson tx.fee)]
  ofJson? value := do
    let fields ← value.record? ["id", "sender", "dest", "amount", "bridge_fee"]
    some { id := ← Json.required? "id" fields
           sender := ← Json.required? "sender" fields
           dest := ← Json.required? "dest" fields
           amount := ← Json.required? "amount" fields
           fee := ← Json.required? "bridge_fee" fields }

end Transfer

end TokenBridge

import TokenBridge.Nonce
import TokenBridge.Signature

/-!
# Confirmations

A validator confirms a signer set or a batch by its signature over the checkpoint. Confirmations of
signer sets form one stream, and those of each token's batches another.
-/

namespace TokenBridge

/-- A sequence of things to confirm. -/
inductive ConfirmStream where
  | valset
  | batch (contract : EthAddress)
deriving DecidableEq, Repr

namespace ConfirmStream

def label : ConfirmStream → String
  | .valset => "valset"
  | .batch _ => "batch"

/-- The name of a stream in messages. -/
def text : ConfirmStream → String
  | .valset => "valset"
  | .batch contract => "batch/" ++ contract.text

instance : Ranked ConfirmStream where
  rank
    | .valset => []
    | .batch contract => rank contract
  rank_injective := by
    intro a b h
    cases a <;> cases b
    · rfl
    · cases h
    · cases h
    · exact congrArg ConfirmStream.batch (Ranked.rank_injective h)

instance : JsonForm ConfirmStream where
  toJson
    | .valset => .text "Valset"
    | .batch contract => .record [("Batch", toJson contract)]
  ofJson?
    | .obj [(.text "Batch", value)] => (ofJson? value).map .batch
    | value => if value.caseName? == some "Valset" then some .valset else none

end ConfirmStream

/-- A stored signature over the checkpoint of a signer set. -/
structure ValsetConfirm where
  nonce : Nonce
  validator : ValidatorAddress
  orchestrator : AccountAddress
  address : EthAddress
  signature : EthSignature
deriving DecidableEq, Repr

instance : JsonForm ValsetConfirm where
  toJson c :=
    .record [("nonce", toJson c.nonce), ("validator", toJson c.validator),
      ("orchestrator", toJson c.orchestrator), ("eth_address", toJson c.address),
      ("signature", toJson c.signature)]
  ofJson? value := do
    let fields ← value.record? ["nonce", "validator", "orchestrator", "eth_address", "signature"]
    some { nonce := ← Json.required? "nonce" fields
           validator := ← Json.required? "validator" fields
           orchestrator := ← Json.required? "orchestrator" fields
           address := ← Json.required? "eth_address" fields
           signature := ← Json.required? "signature" fields }

structure BatchConfirm where
  nonce : Nonce
  contract : EthAddress
  validator : ValidatorAddress
  orchestrator : AccountAddress
  address : EthAddress
  signature : EthSignature
deriving DecidableEq, Repr

instance : JsonForm BatchConfirm where
  toJson c :=
    .record [("nonce", toJson c.nonce), ("token_contract", toJson c.contract),
      ("validator", toJson c.validator), ("orchestrator", toJson c.orchestrator),
      ("eth_address", toJson c.address), ("signature", toJson c.signature)]
  ofJson? value := do
    let fields ← value.record?
      ["nonce", "token_contract", "validator", "orchestrator", "eth_address", "signature"]
    some { nonce := ← Json.required? "nonce" fields
           contract := ← Json.required? "token_contract" fields
           validator := ← Json.required? "validator" fields
           orchestrator := ← Json.required? "orchestrator" fields
           address := ← Json.required? "eth_address" fields
           signature := ← Json.required? "signature" fields }

/-- What became of a confirmation that was not refused. -/
inductive ConfirmOutcome where
  | stored
  | duplicate
deriving DecidableEq, Repr

def ConfirmOutcome.label : ConfirmOutcome → String
  | .stored => "Stored"
  | .duplicate => "Duplicate"

end TokenBridge

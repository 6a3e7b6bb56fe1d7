import TokenBridge.Confirmation
import TokenBridge.Threshold
import TokenBridge.Valset
import TokenBridge.Json.Reader

/-!
# Parameters

The settings that a bridge starts with. The id is mixed into every checkpoint, the threshold decides
agreement, and the batch size and the change threshold bound what batches and signer sets are made.
The rest is kept for the host chain and the contract.
-/

namespace TokenBridge

structure Params where
  bridgeId : String
  contract : EthAddress
  chainId : UInt64
  startThreshold : UInt64
  threshold : Threshold
  valsetWindow : UInt64
  batchWindow : UInt64
  claimWindow : UInt64
  batchTimeout : UInt64
  batchSize : UInt64
  changeThreshold : UInt64
deriving DecidableEq, Repr

namespace Params

def default : Params where
  bridgeId := "defaultpeggyid"
  contract := .zero
  chainId := 0
  startThreshold := 2863311530
  threshold := .twoThirds
  valsetWindow := 10000
  batchWindow := 10000
  claimWindow := 10000
  batchTimeout := 43200000
  batchSize := 100
  changeThreshold := 500

instance : Inhabited Params :=
  ⟨default⟩

/-- The first named length of time that is zero is refused. -/
def requirePositive : List (String × UInt64) → Except Invalid Unit
  | [] => .ok ()
  | (name, length) :: rest => if length = 0 then .error (.zeroWindow name) else requirePositive rest

/-- The id fits in one word, the threshold is a majority, and nothing that is counted is zero. -/
def validate (p : Params) : Except Invalid Unit := do
  let size := (Text.utf8 p.bridgeId.toList).length
  if size = 0 then throw .noBridgeId
  if 32 < size then throw (.longBridgeId size)
  p.threshold.validate
  if p.batchSize = 0 then throw .zeroBatchSize
  if powerScale < p.startThreshold.toNat then throw (.startThreshold p.startThreshold)
  requirePositive [("signed_valsets_window", p.valsetWindow),
    ("signed_batches_window", p.batchWindow), ("signed_claims_window", p.claimWindow),
    ("target_batch_timeout", p.batchTimeout)]

/-- The blocks within which something on a stream is to be confirmed. -/
def confirmWindow (p : Params) : ConfirmStream → UInt64
  | .valset => p.valsetWindow
  | .batch _ => p.batchWindow

/-- The defaults under the settings of an environment. Numbers that cannot be read are ignored, and
nothing is validated. -/
def ofEnv (lookup : String → Option String) : Params :=
  let number (name : String) (fallback : UInt64) : UInt64 :=
    match (lookup name).map fun s => Text.Decimal.read UInt64.size s.toList with
    | some (.ok n) => UInt64.ofNat n
    | _ => fallback
  { default with
    bridgeId := (lookup "PEGGY_ID").getD default.bridgeId
    chainId := number "PEGGY_BRIDGE_CHAIN_ID" default.chainId
    threshold :=
      ⟨number "PEGGY_THRESHOLD_NUM" default.threshold.numerator,
        number "PEGGY_THRESHOLD_DEN" default.threshold.denominator⟩
    batchSize := number "PEGGY_BATCH_MAX_ELEMENTS" default.batchSize }

instance : JsonForm Params where
  toJson p :=
    .record [("peggy_id", toJson p.bridgeId), ("bridge_contract_address", toJson p.contract),
      ("bridge_chain_id", toJson p.chainId), ("start_threshold", toJson p.startThreshold),
      ("attestation_threshold", toJson p.threshold),
      ("signed_valsets_window", toJson p.valsetWindow),
      ("signed_batches_window", toJson p.batchWindow),
      ("signed_claims_window", toJson p.claimWindow),
      ("target_batch_timeout", toJson p.batchTimeout), ("batch_max_elements", toJson p.batchSize),
      ("valset_change_threshold_bps", toJson p.changeThreshold)]
  ofJson? value := do
    let fields ← value.record?
      ["peggy_id", "bridge_contract_address", "bridge_chain_id", "start_threshold",
        "attestation_threshold", "signed_valsets_window", "signed_batches_window",
        "signed_claims_window", "target_batch_timeout", "batch_max_elements",
        "valset_change_threshold_bps"]
    some { bridgeId := ← Json.optional? default.bridgeId "peggy_id" fields
           contract := ← Json.optional? default.contract "bridge_contract_address" fields
           chainId := ← Json.optional? default.chainId "bridge_chain_id" fields
           startThreshold := ← Json.optional? default.startThreshold "start_threshold" fields
           threshold := ← Json.optional? default.threshold "attestation_threshold" fields
           valsetWindow := ← Json.optional? default.valsetWindow "signed_valsets_window" fields
           batchWindow := ← Json.optional? default.batchWindow "signed_batches_window" fields
           claimWindow := ← Json.optional? default.claimWindow "signed_claims_window" fields
           batchTimeout := ← Json.optional? default.batchTimeout "target_batch_timeout" fields
           batchSize := ← Json.optional? default.batchSize "batch_max_elements" fields
           changeThreshold :=
             ← Json.optional? default.changeThreshold "valset_change_threshold_bps" fields }

def parse (s : List Char) : Except Invalid Params := do
  match (Json.parse? s).bind ofJson? with
  | some (p : Params) =>
    p.validate
    return p
  | none => throw (.unreadable "params")

end Params

end TokenBridge

import TokenBridge.Abi
import TokenBridge.Batch.Status
import TokenBridge.Claim.Kind
import TokenBridge.Signature

/-!
# Why a request is refused

A request is refused because its content is not valid, because its nonce is not the next one,
because its sender may not make it, because what it names is not there, or because the state of the
bridge can take no more. Each cause is a constructor; the wording is in one place.
-/

namespace TokenBridge

/-- What is wrong with the content of a request or of a genesis document. -/
inductive Invalid where
  | malformed (fault : Malformed)
  | signature (fault : SignatureFault)
  | zeroDenominator
  | thresholdRange (numerator denominator : UInt64)
  | zeroClaimNonce
  | zeroDeposit
  | noReceiver
  | zeroBatchNonce
  | zeroValsetNonce
  | finalized (kind : ClaimKind) (nonce : Nonce)
  | voted (validator : ValidatorAddress) (kind : ClaimKind) (nonce : Nonce)
  | zeroPower (member : EthAddress)
  | noMembers
  | repeatedMember (member : EthAddress)
  | memberOrder (nonce : Nonce)
  | feeAsset (fee amount : EthAddress)
  | zeroTransfer
  | noElements
  | foreignTransfer (id : UInt64) (contract batch : EthAddress)
  | statusStep (nonce : Nonce) (source target : BatchStatus)
  | noBridgeId
  | longBridgeId (size : Nat)
  | zeroBatchSize
  | startThreshold (power : UInt64)
  | zeroWindow (name : String)
  | repeatedValset (nonce : Nonce)
  | confirmWithoutValset (nonce : Nonce)
  | batchAboveLast (nonce last : Nonce)
  | repeatedBatch (nonce : Nonce) (contract : EthAddress)
  | confirmWithoutBatch (nonce : Nonce) (contract : EthAddress)
  | transferId (id : UInt64)
  | staleDetails (kind : ClaimKind) (nonce : Nonce)
  | repeatedKey (key : EthAddress)
  | unreadable (document : String)
  | balanceOverflow (denom : String)
  | insufficient (denom : String) (held need : Amount)
  | batchClosed (nonce : Nonce) (contract : EthAddress)
  | keyTaken (key : EthAddress) (owner : ValidatorAddress)
  | noSender
  | emptyPool (contract : EthAddress)
  | noAnchor
  | noKeyHolders
deriving DecidableEq, Repr

/-- Why a sender may not make a request. -/
inductive Denial where
  | noDelegation (orchestrator : AccountAddress)
  | unbonded (validator : ValidatorAddress)
  | powerless (validator : ValidatorAddress)
  | keyless (validator : ValidatorAddress)
deriving DecidableEq, Repr

/-- What a request names without its being there. -/
inductive Absent where
  | validator (address : ValidatorAddress)
  | valset (nonce : Nonce)
  | batch (nonce : Nonce) (contract : EthAddress)
deriving DecidableEq, Repr

/-- Why the bridge can take no more. -/
inductive Exhausted where
  | checkpoint (fault : TagTooLong)
  | nonce (last : Nonce)
  | transferIds
deriving DecidableEq, Repr

inductive BridgeError where
  | invalid (cause : Invalid)
  | outOfSequence (expected got : Nonce)
  | unauthorized (cause : Denial)
  | notFound (cause : Absent)
  | fatal (cause : Exhausted)
deriving DecidableEq, Repr

/-! ## Wording -/

def UInt64.text (n : UInt64) : String :=
  String.ofList (Text.Decimal.digits n.toNat)

def Invalid.message : Invalid → String
  | .malformed fault => fault.message
  | .signature fault => "signature: " ++ fault.message
  | .zeroDenominator => "threshold denominator is zero"
  | .thresholdRange n d =>
    "threshold " ++ UInt64.text n ++ "/" ++ UInt64.text d ++ " outside [1/2, 1]"
  | .zeroClaimNonce => "claim nonce must be positive"
  | .zeroDeposit => "zero deposit amount"
  | .noReceiver => "empty deposit receiver"
  | .zeroBatchNonce => "batch nonce must be positive"
  | .zeroValsetNonce => "valset nonce must be positive"
  | .finalized kind nonce => kind.label ++ " attestation " ++ nonce.text ++ " is finalized"
  | .voted validator kind nonce =>
    validator.text ++ " already voted on " ++ kind.label ++ " " ++ nonce.text
  | .zeroPower member => "zero power for " ++ member.text
  | .noMembers => "valset has no members"
  | .repeatedMember member => "duplicate valset member " ++ member.text
  | .memberOrder nonce => "valset " ++ nonce.text ++ " members are not in canonical order"
  | .feeAsset fee amount =>
    "fee token " ++ fee.text ++ " differs from amount token " ++ amount.text
  | .zeroTransfer => "zero transfer amount"
  | .noElements => "batch has no elements"
  | .foreignTransfer id contract batch =>
    "transfer " ++ UInt64.text id ++ " is for " ++ contract.text ++ ", batch is for " ++ batch.text
  | .statusStep nonce source target =>
    "batch " ++ nonce.text ++ " cannot move from " ++ source.typeName ++ " to " ++ target.typeName
  | .noBridgeId => "empty peggy id"
  | .longBridgeId size => "peggy id is " ++ toString size ++ " bytes, limit is 32"
  | .zeroBatchSize => "batch_max_elements is zero"
  | .startThreshold power =>
    "start_threshold " ++ UInt64.text power ++ " exceeds the normalised power scale"
  | .zeroWindow name => name ++ " is zero"
  | .repeatedValset nonce => "duplicate valset nonce " ++ nonce.text
  | .confirmWithoutValset nonce => "confirm for unknown valset " ++ nonce.text
  | .batchAboveLast nonce last =>
    "batch " ++ nonce.text ++ " is above last_batch_nonce " ++ last.text
  | .repeatedBatch nonce contract => "duplicate batch " ++ nonce.text ++ " for " ++ contract.text
  | .confirmWithoutBatch nonce contract =>
    "confirm for unknown batch " ++ nonce.text ++ " of " ++ contract.text
  | .transferId id => "bad transfer id " ++ UInt64.text id
  | .staleDetails kind nonce =>
    "attestation " ++ kind.label ++ " " ++ nonce.text ++ " has a stale details hash"
  | .repeatedKey key => "eth address " ++ key.text ++ " registered twice"
  | .unreadable document => document
  | .balanceOverflow denom => denom ++ " balance overflow"
  | .insufficient denom held need =>
    "insufficient " ++ denom ++ ": have " ++ held.text ++ ", need " ++ need.text
  | .batchClosed nonce contract =>
    "batch " ++ nonce.text ++ " for " ++ contract.text ++ " is already executed"
  | .keyTaken key owner => key.text ++ " is already registered to " ++ owner.text
  | .noSender => "empty sender"
  | .emptyPool contract => "no pending transfers for " ++ contract.text
  | .noAnchor => "no valset to anchor the batch"
  | .noKeyHolders => "no bonded validator has a registered Ethereum key"

def Denial.message : Denial → String
  | .noDelegation orchestrator => orchestrator.text ++ " is not a delegated orchestrator"
  | .unbonded validator => "validator " ++ validator.text ++ " is not bonded"
  | .powerless validator => "validator " ++ validator.text ++ " has no power"
  | .keyless validator => "validator " ++ validator.text ++ " has no Ethereum key"

def Absent.message : Absent → String
  | .validator address => "validator " ++ address.text
  | .valset nonce => "valset " ++ nonce.text
  | .batch nonce contract => "batch " ++ nonce.text ++ " for " ++ contract.text

def Exhausted.message : Exhausted → String
  | .checkpoint fault => "checkpoint encoding: " ++ fault.message
  | .nonce last => "nonce " ++ last.text ++ " overflows"
  | .transferIds => "transfer id overflows"

/-- The class of a refusal, as counted and reported. -/
inductive Reason where
  | invalid
  | outOfSequence
  | unauthorized
  | notFound
  | fatal
deriving DecidableEq, Repr

def Reason.all : List Reason :=
  [.invalid, .outOfSequence, .unauthorized, .notFound, .fatal]

def Reason.label : Reason → String
  | .invalid => "invalid"
  | .outOfSequence => "out_of_sequence"
  | .unauthorized => "unauthorized"
  | .notFound => "not_found"
  | .fatal => "fatal"

namespace BridgeError

def reason : BridgeError → Reason
  | .invalid _ => .invalid
  | .outOfSequence _ _ => .outOfSequence
  | .unauthorized _ => .unauthorized
  | .notFound _ => .notFound
  | .fatal _ => .fatal

def message : BridgeError → String
  | .invalid cause => "Invalid: " ++ cause.message
  | .outOfSequence expected got =>
    "Out of sequence: expected nonce " ++ expected.text ++ ", got " ++ got.text
  | .unauthorized cause => "Unauthorized: " ++ cause.message
  | .notFound cause => "Not found: " ++ cause.message
  | .fatal cause => "Fatal: " ++ cause.message

end BridgeError

end TokenBridge

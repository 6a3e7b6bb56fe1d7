import TokenBridge.Claim.Kind
import TokenBridge.Error
import TokenBridge.Token

/-!
# Claims

A claim says that an event happened on Ethereum: tokens were locked for an account, a batch was
executed, or a set of signers took over. It has the event's nonce on the stream of its kind and a
payload. The fingerprint is the hash of the payload without the nonce.
-/

namespace TokenBridge

/-- An event on Ethereum, as an orchestrator claims it. -/
inductive Claim where
  | deposit (nonce : Nonce) (token : Token) (sender : EthAddress) (receiver : AccountAddress)
  | batchExecuted (nonce batchNonce : Nonce) (contract : EthAddress)
  | valsetExecuted (nonce valsetNonce : Nonce)
deriving DecidableEq, Repr

namespace Claim

def kind : Claim → ClaimKind
  | .deposit .. => .deposit
  | .batchExecuted .. => .batchExecuted
  | .valsetExecuted .. => .valsetExecuted

/-- The event's nonce on the stream of its kind. -/
def nonce : Claim → Nonce
  | .deposit nonce .. => nonce
  | .batchExecuted nonce .. => nonce
  | .valsetExecuted nonce .. => nonce

def validatePayload : Claim → Except Invalid Unit
  | .deposit _ token sender receiver => do
    token.validate.mapError .malformed
    if token.amount = .zero then throw .zeroDeposit
    sender.requireNonZero.mapError .malformed
    if receiver.isZero then throw .noReceiver
  | .batchExecuted _ batchNonce contract => do
    contract.requireNonZero.mapError .malformed
    if batchNonce = .zero then throw .zeroBatchNonce
  | .valsetExecuted _ valsetNonce =>
    if valsetNonce = .zero then throw .zeroValsetNonce else return ()

/-- Nonces count from one, and the payload names something. -/
def validate (claim : Claim) : Except Invalid Unit :=
  if claim.nonce = .zero then throw .zeroClaimNonce else claim.validatePayload

/-- The bytes of a payload, after the number of its kind. The nonce is not part of them. -/
def payload (claim : Claim) : List UInt8 :=
  claim.kind.tag ::
    match claim with
    | .deposit _ token sender receiver =>
      let symbol := Text.utf8 token.symbol.toList
      bigEndian 32 token.amount.toNat ++ token.contract.toBytes ++ bigEndian 4 symbol.length ++
        symbol ++ sender.toBytes ++ receiver.toBytes
    | .batchExecuted _ batchNonce contract => batchNonce.toBytes ++ contract.toBytes
    | .valsetExecuted _ valsetNonce => valsetNonce.toBytes

def fingerprint (claim : Claim) : Digest :=
  keccak256 claim.payload

/-! ## JSON form -/

/-- The claim of a value that is tagged with its kind. The fields are held before the kind is known,
so they must all be sound within `room` levels. -/
def ofJsonWithin? (room : Nat) (value : Json) : Option Claim := do
  if !value.sound room then none
  let (name, payload) ← value.tagged? "type"
  match ← ClaimKind.all.find? fun kind => kind.label == name with
  | .deposit =>
    let fields ← payload.record? ["nonce", "token", "eth_sender", "cosmos_receiver"]
    some (.deposit (← Json.required? "nonce" fields) (← Json.required? "token" fields)
      (← Json.required? "eth_sender" fields) (← Json.required? "cosmos_receiver" fields))
  | .batchExecuted =>
    let fields ← payload.record? ["nonce", "batch_nonce", "token_contract"]
    some (.batchExecuted (← Json.required? "nonce" fields) (← Json.required? "batch_nonce" fields)
      (← Json.required? "token_contract" fields))
  | .valsetExecuted =>
    let fields ← payload.record? ["nonce", "valset_nonce"]
    some (.valsetExecuted (← Json.required? "nonce" fields)
      (← Json.required? "valset_nonce" fields))

/-- The levels of nesting that a reader of untyped values goes into. -/
def maxNesting : Nat := 127

/-- Inside a genesis document a claim stands below three other levels. -/
instance : JsonForm Claim where
  toJson claim :=
    .record <| ("type", .text claim.kind.label) :: ("nonce", toJson claim.nonce) ::
      match claim with
      | .deposit _ token sender receiver =>
        [("token", toJson token), ("eth_sender", toJson sender),
          ("cosmos_receiver", toJson receiver)]
      | .batchExecuted _ batchNonce contract =>
        [("batch_nonce", toJson batchNonce), ("token_contract", toJson contract)]
      | .valsetExecuted _ valsetNonce => [("valset_nonce", toJson valsetNonce)]
  ofJson? := ofJsonWithin? (maxNesting - 3)

end Claim

end TokenBridge

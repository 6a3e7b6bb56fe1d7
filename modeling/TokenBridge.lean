import TokenBridge.Text.Blank
import TokenBridge.Text.Utf8
import TokenBridge.Text.Hex
import TokenBridge.Text.Base64
import TokenBridge.Text.Decimal
import TokenBridge.Text.Quoted
import TokenBridge.Json.Reader
import TokenBridge.Json.Writer
import TokenBridge.Json.Codec
import TokenBridge.Hash.Keccak
import TokenBridge.Curve.Ecdsa
import TokenBridge.Token
import TokenBridge.Abi
import TokenBridge.Signature
import TokenBridge.Denom
import TokenBridge.Table.Basic
import TokenBridge.Table.Lemmas
import TokenBridge.Attestation
import TokenBridge.Valset
import TokenBridge.Slashing
import TokenBridge.Genesis
import TokenBridge.Bridge.Run
import TokenBridge.Bridge.Genesis
import TokenBridge.Bridge.Queries
import TokenBridge.Logging.Settings
import TokenBridge.Proofs.Table.Values
import TokenBridge.Proofs.Bridge.Verdicts
import TokenBridge.Proofs.Bridge.Steps
import TokenBridge.Proofs.Store.Execution
import TokenBridge.Proofs.Claims.Tallies
import TokenBridge.Proofs.Claims.Agreement
import TokenBridge.Proofs.Claims.Votes
import TokenBridge.Proofs.Store.Transfers
import TokenBridge.Proofs.Withdrawals.Custody
import TokenBridge.Proofs.Ledger.Solvency
import TokenBridge.Proofs.Claims.Equivocations
import TokenBridge.Proofs.Bridge.Refusals
import TokenBridge.Proofs.Bridge.Writes
import TokenBridge.Proofs.Valsets.Canonical
import TokenBridge.Proofs.Valsets.Ordering
import TokenBridge.Proofs.Store.References
import TokenBridge.Proofs.Genesis.Validation
import TokenBridge.Proofs.Genesis.Restart
import TokenBridge.Proofs.Claims.Majority
import TokenBridge.Proofs.Claims.FirstVotes
import TokenBridge.Proofs.Claims.Ballots
import TokenBridge.Proofs.Claims.Quorum
import TokenBridge.Proofs.Checkpoints.Preimages
import TokenBridge.Proofs.Valsets.Newest
import TokenBridge.Proofs.Store.Thinning
import TokenBridge.Proofs.Confirmations.Streams
import TokenBridge.Proofs.Confirmations.Turns
import TokenBridge.Proofs.Confirmations.Signatures
import TokenBridge.Proofs.Valsets.Lifecycle
import TokenBridge.Proofs.Withdrawals.Lifecycle
import TokenBridge.Proofs.Genesis.Custody
import TokenBridge.Proofs.Claims.Progress
import TokenBridge.Proofs.Claims.LateClaims
import TokenBridge.Proofs.Bridge.Parallel
import TokenBridge.Proofs.Claims.Independence
import TokenBridge.Proofs.Genesis.Reloading
import TokenBridge.Proofs.Genesis.Text
import TokenBridge.Proofs.Claims.Resubmission
import TokenBridge.Proofs.Withdrawals.Assembly
import TokenBridge.Proofs.Withdrawals.Selection
import TokenBridge.Proofs.Withdrawals.Executions
import TokenBridge.Proofs.Valsets.Snapshots
import TokenBridge.Proofs.Valsets.Weights
import TokenBridge.Proofs.Valsets.Distance
import TokenBridge.Proofs.Valsets.Updates
import TokenBridge.Proofs.Valsets.Drift
import TokenBridge.Proofs.Claims.Unanimity
import TokenBridge.Proofs.Checkpoints.BridgeIds
import TokenBridge.Proofs.Text.Base64
import TokenBridge.Proofs.Text.Decimal
import TokenBridge.Proofs.Text.Nonces
import TokenBridge.Proofs.Text.Addresses
import TokenBridge.Proofs.Bridge.Exhaustion
import TokenBridge.Proofs.Signatures.Recovery
import TokenBridge.Proofs.Signatures.RoundTrip
import TokenBridge.Proofs.Counters.Reconciliation

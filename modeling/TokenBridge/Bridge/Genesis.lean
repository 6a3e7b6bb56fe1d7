import TokenBridge.Bridge.Basic
import TokenBridge.Genesis

/-!
# Stopping and starting

A bridge writes all that it keeps into a genesis document, and a document that is valid is loaded
into a bridge. Loading puts each record in place of what was under its key.
-/

namespace TokenBridge

namespace Store

def load (s : Store) (g : Genesis) : Store :=
  let s := g.valsets.foldl putValset s
  let s := { s with observedValset := g.observedValset <|> s.observedValset }
  let s := g.valsetConfirms.foldl putValsetConfirm s
  let s := g.batches.foldl putBatch s
  let s := g.batchConfirms.foldl putBatchConfirm s
  let s := g.attestations.foldl putAttestation s
  let s := g.transfers.foldl putTransfer s
  let s := g.keys.foldl (fun s r => s.putKey r.validator r.address) s
  let s := g.claimCursors.foldl (fun s c => s.setClaimCursor c.kind c.nonce) s
  let s := g.confirmCursors.foldl (fun s c => s.setConfirmCursor c.validator c.stream c.nonce) s
  { s with lastTransferId := g.lastTransferId, lastBatchNonce := g.lastBatchNonce }

/-- The cursors of claims that have moved, in the order of the kinds. -/
def movedCursors (s : Store) : List ClaimCursor :=
  (ClaimKind.all.map fun kind => ⟨kind, s.claimCursor kind⟩).filter fun c => c.nonce != .zero

/-- The records of the store. Confirmations are listed under what they confirm. -/
def genesis (s : Store) (params : Params) : Genesis where
  params := params
  valsets := s.valsets.values
  observedValset := s.observedValset
  valsetConfirms := s.valsets.values.flatMap fun v => s.valsetConfirmsOf v.nonce
  batches := s.batches.values
  batchConfirms := s.batches.values.flatMap fun b => s.batchConfirmsOf b.contract b.nonce
  attestations := s.attestations.values
  transfers := s.transfers.values
  keys := s.keys.entries.map fun entry => ⟨entry.1, entry.2⟩
  claimCursors := s.movedCursors
  confirmCursors := s.confirmCursors.entries.map fun entry => ⟨entry.1.1, entry.1.2, entry.2⟩
  lastTransferId := s.lastTransferId
  lastBatchNonce := s.lastBatchNonce

end Store

namespace Bridge

/-- Loads a valid document. Its settings take the place of the former ones. -/
def initGenesis (g : Genesis) : Handler Unit := do
  check (g.validate.mapError .invalid)
  write fun s => s.load g
  modify fun b => { b with params := g.params }

def exportGenesis (b : Bridge) : Genesis :=
  b.store.genesis b.params

/-- The bridge that starts anew from the text of the document of this one: without validators,
balances and reports, but with what was counted. -/
def restart (b : Bridge) : Except BridgeError Bridge := do
  let g ← (Genesis.parse b.exportGenesis.print).mapError .invalid
  match initGenesis g { (default : Bridge) with counters := b.counters } with
  | .ok () fresh => return fresh
  | .error refusal _ => throw refusal

end Bridge

end TokenBridge

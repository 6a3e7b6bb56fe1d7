import TokenBridge.Attestation

/-!
# Counters

What the bridge counts for those who run it: claims by outcome or by reason of refusal, finalized
attestations by kind, equivocations, stored confirmations by stream, and batches.
-/

namespace TokenBridge

inductive Counter where
  | submitted (outcome : ClaimOutcome)
  | rejected (reason : Reason)
  | finalized (kind : ClaimKind)
  | equivocation
  | valsetConfirmed
  | batchConfirmed
  | batchBuilt
deriving DecidableEq, Repr

namespace Counter

def labelled (name label : String) : String :=
  name ++ "\x7b" ++ label ++ "\x7d"

def name : Counter → String
  | .submitted outcome => labelled "peggy_claims_submitted_total" outcome.label
  | .rejected reason => labelled "peggy_claims_rejected_total" reason.label
  | .finalized kind => labelled "peggy_attestations_finalized_total" kind.label
  | .equivocation => "peggy_equivocations_total"
  | .valsetConfirmed => labelled "peggy_confirmations_total" "valset"
  | .batchConfirmed => labelled "peggy_confirmations_total" "batch"
  | .batchBuilt => "peggy_batches_built_total"

def all : List Counter :=
  ClaimOutcome.all.map .submitted ++ Reason.all.map .rejected ++ ClaimKind.all.map .finalized ++
    [.equivocation, .valsetConfirmed, .batchConfirmed, .batchBuilt]

end Counter

abbrev Counters : Type :=
  Counter → Nat

namespace Counters

def zero : Counters :=
  fun _ => 0

def bump (counters : Counters) (counter : Counter) : Counters :=
  fun other => if other = counter then counters other + 1 else counters other

/-- The names and counts of what was counted at all. -/
def report (counters : Counters) : List (String × Nat) :=
  (Counter.all.map fun counter => (counter.name, counters counter)).filter fun entry =>
    entry.2 != 0

end Counters

end TokenBridge

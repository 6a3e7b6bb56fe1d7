import TokenBridge.Json.Codec
import TokenBridge.Table.Rank

/-!
# Kinds of claims

Events on Ethereum come in three kinds. Each kind is numbered on its own, so each has its own stream
of nonces.
-/

namespace TokenBridge

inductive ClaimKind where
  | deposit
  | batchExecuted
  | valsetExecuted
deriving DecidableEq, Repr

namespace ClaimKind

def all : List ClaimKind :=
  [.deposit, .batchExecuted, .valsetExecuted]

/-- The number of a kind inside fingerprints. -/
def tag : ClaimKind → UInt8
  | .deposit => 1
  | .batchExecuted => 2
  | .valsetExecuted => 3

/-- The name of a kind in messages and claims. -/
def label : ClaimKind → String
  | .deposit => "deposit"
  | .batchExecuted => "withdrawal_batch_executed"
  | .valsetExecuted => "valset_update_executed"

/-- The name of a kind in keys and cursors. -/
def typeName : ClaimKind → String
  | .deposit => "Deposit"
  | .batchExecuted => "WithdrawalBatchExecuted"
  | .valsetExecuted => "ValsetUpdateExecuted"

instance : Ranked ClaimKind where
  rank kind := [kind.tag.toNat]
  rank_injective := by
    intro a b h
    cases a <;> cases b <;> first | rfl | exact absurd h (by decide)

instance : JsonForm ClaimKind where
  toJson kind := .text kind.typeName
  ofJson? value := value.caseName?.bind fun name => all.find? fun kind => kind.typeName == name

end ClaimKind

end TokenBridge

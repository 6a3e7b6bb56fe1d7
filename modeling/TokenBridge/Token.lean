import TokenBridge.Address.Text
import TokenBridge.Amount
import TokenBridge.Text.Blank

/-!
# Token amounts

A quantity of one token of Ethereum. Two amounts are of the same asset when contract and symbol
agree; only those can be added.
-/

namespace TokenBridge

structure Token where
  amount : Amount
  symbol : String
  contract : EthAddress
deriving DecidableEq, Repr

namespace Token

/-- No quantity of the same asset. -/
def zeroOf (t : Token) : Token :=
  { t with amount := .zero }

/-- The contract names somebody and the symbol is not blank. -/
def validate (t : Token) : Except Malformed Unit := do
  t.contract.requireNonZero
  if (Text.trim t.symbol.toList).isEmpty then throw .emptySymbol

def sameAsset (t u : Token) : Bool :=
  t.contract == u.contract && t.symbol == u.symbol

/-- The sum of two amounts of the same asset. -/
def add (t u : Token) : Except Malformed Token :=
  if t.sameAsset u then
    match t.amount.add? u.amount with
    | some amount => .ok { t with amount }
    | none => .error .amountOverflow
  else .error (.otherAsset u.symbol u.contract t.symbol t.contract)

instance : JsonForm Token where
  toJson t :=
    .record [("amount", toJson t.amount), ("symbol", toJson t.symbol),
      ("contract", toJson t.contract)]
  ofJson? value := do
    let fields ← value.record? ["amount", "symbol", "contract"]
    some { amount := ← Json.required? "amount" fields
           symbol := ← Json.required? "symbol" fields
           contract := ← Json.required? "contract" fields }

end Token

end TokenBridge

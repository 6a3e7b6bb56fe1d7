import TokenBridge.Error
import TokenBridge.Table.Basic

/-!
# Ledgers

The balances of the host chain's accounts in each denomination. What was never credited is zero.
-/

namespace TokenBridge

structure Ledger where
  balances : Table (AccountAddress × String) Amount

namespace Ledger

def empty : Ledger :=
  ⟨.empty⟩

instance : Inhabited Ledger :=
  ⟨empty⟩

/-- What an account holds in a denomination. -/
def balance (l : Ledger) (account : AccountAddress) (denom : String) : Amount :=
  (l.balances.find? (account, denom)).getD .zero

def setBalance (l : Ledger) (account : AccountAddress) (denom : String) (amount : Amount) :
    Ledger :=
  ⟨l.balances.insert (account, denom) amount⟩

/-- Credits an account, unless its balance would leave the range of amounts. -/
def mint (l : Ledger) (account : AccountAddress) (amount : Amount) (denom : String) :
    Except BridgeError Ledger :=
  match (l.balance account denom).add? amount with
  | some sum => .ok (l.setBalance account denom sum)
  | none => .error (.invalid (.balanceOverflow denom))

/-- Debits an account that holds enough. -/
def burn (l : Ledger) (account : AccountAddress) (amount : Amount) (denom : String) :
    Except BridgeError Ledger :=
  match (l.balance account denom).sub? amount with
  | some rest => .ok (l.setBalance account denom rest)
  | none => .error (.invalid (.insufficient denom (l.balance account denom) amount))

end Ledger

end TokenBridge

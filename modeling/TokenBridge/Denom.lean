import TokenBridge.Address.Basic
import TokenBridge.Hash.Sha256

/-!
# Voucher denominations

The host chain's name for the vouchers of a token: a fixed word and the first ten digits of the hash
of contract and symbol.
-/

namespace TokenBridge

open Text

def voucherDenom (contract : EthAddress) (symbol : String) : String :=
  let named := contract.chars ++ '/' :: symbol.toList ++ ['/']
  "peggy" ++ String.ofList (Hex.encode ((Sha256.hash (utf8 named)).take 5))

end TokenBridge

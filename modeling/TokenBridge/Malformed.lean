import TokenBridge.Address.Basic
import TokenBridge.Text.Decimal
import TokenBridge.Text.Quoted

/-!
# Malformed values

Why a text, some bytes or a value is no address, nonce or token amount.
-/

namespace TokenBridge

open Text

inductive Malformed where
  | hex (fault : Hex.Fault)
  | length (expected got : Nat)
  | emptyAddress
  | nonce (text : String) (fault : Decimal.Fault)
  | emptySymbol
  | otherAsset (addedSymbol : String) (added : EthAddress) (baseSymbol : String) (base : EthAddress)
  | amountOverflow
deriving DecidableEq, Repr

def hexMessage : Hex.Fault → String
  | .oddLength => "Odd number of digits"
  | .digit byte position =>
    "Invalid character " ++ String.ofList (quoted '\'' [Char.ofNat byte.toNat]) ++ " at position " ++
      toString position

def Malformed.message : Malformed → String
  | .hex fault => "Invalid hex: " ++ hexMessage fault
  | .length expected got =>
    "Invalid length: expected " ++ toString expected ++ " bytes, got " ++ toString got
  | .emptyAddress => "Empty address"
  | .nonce text fault =>
    "Invalid nonce: " ++ String.ofList (quoted '"' text.toList) ++ ": " ++ fault.message
  | .emptySymbol => "Invalid token: empty symbol"
  | .otherAsset addedSymbol added baseSymbol base =>
    "Invalid token: cannot add " ++ addedSymbol ++ " of " ++ added.text ++ " to " ++ baseSymbol ++
      " of " ++ base.text
  | .amountOverflow => "Invalid token: amount overflow"

end TokenBridge

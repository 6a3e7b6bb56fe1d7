import TokenBridge.Json.Codec

/-!
# The life of a batch

A batch waits for its execution on Ethereum and is closed once that has been observed.
-/

namespace TokenBridge

inductive BatchStatus where
  | pending
  | executed
deriving DecidableEq, Repr

namespace BatchStatus

def typeName : BatchStatus → String
  | .pending => "Pending"
  | .executed => "ObservedExecuted"

/-- The one step there is. -/
def canBecome : BatchStatus → BatchStatus → Bool
  | .pending, .executed => true
  | _, _ => false

def isTerminal : BatchStatus → Bool
  | .executed => true
  | .pending => false

instance : JsonForm BatchStatus where
  toJson status := .text status.typeName
  ofJson? value :=
    value.caseName?.bind fun name => [pending, executed].find? fun status => status.typeName == name

end BatchStatus

end TokenBridge

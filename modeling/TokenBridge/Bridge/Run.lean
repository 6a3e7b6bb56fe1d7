import TokenBridge.Bridge.Message

/-!
# Runs

The life of a bridge: messages in any order, between which the host chain changes its validators. A
refused event leaves the state that its handler left.
-/

namespace TokenBridge

inductive Event where
  | message (message : Message)
  | staking (change : Staking)

namespace Bridge

def stake (change : Staking) : Handler Unit := do
  let b ← get
  let registry ← check (b.registry.apply change)
  set { b with registry }

/-- The state that a handler leaves, whether it refuses or not. -/
def left {α : Type} (handler : Handler α) (b : Bridge) : Bridge :=
  match handler b with
  | .ok _ next => next
  | .error _ next => next

def after (b : Bridge) : Event → Bridge
  | .message message => left (handle message) b
  | .staking change => left (stake change) b

def run (b : Bridge) (events : List Event) : Bridge :=
  events.foldl after b

end Bridge

end TokenBridge

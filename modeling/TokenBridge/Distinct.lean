/-!
# Lists without repeated keys

Walking a list in order, checking each element, and refusing the first one whose key was seen
before.
-/

namespace TokenBridge

/-- Checks each element and then that its key is new. The first fault in list order is the result;
without one it is the keys seen. -/
def distinct {α κ ε : Type} [DecidableEq κ] (key : α → κ) (check : α → Except ε Unit)
    (clash : α → ε) : List κ → List α → Except ε (List κ)
  | seen, [] => .ok seen
  | seen, a :: rest => do
    check a
    if key a ∈ seen then throw (clash a)
    distinct key check clash (key a :: seen) rest

end TokenBridge

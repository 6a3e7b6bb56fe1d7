import TokenBridge.Bridge.Run
import TokenBridge.Proofs.Bridge.Handling

/-!
# Handlers side by side

Let two bridges agree on all that a handler reads. Then it answers the same on both, and what it
writes keeps them in agreement. `Parallel R` says this of two handlers for any way `R` in which
bridges agree, and each step of a handler has its own rule.

* `Parallel.bind`, `Parallel.check_bind`, `Parallel.get_bind`: sequences;
* `parallel_pure`, `parallel_throw`, `parallel_set`, `parallel_modify`: single steps;
* `Parallel.answer_eq`, `Parallel.left`: what two such handlers come to.
-/

namespace TokenBridge.Bridge

/-- The answer of a handler, or its refusal. -/
def answer {α : Type} (handler : Handler α) (b : Bridge) : Except BridgeError α :=
  match handler b with
  | .ok reply _ => .ok reply
  | .error refusal _ => .error refusal

theorem eq_ok_of_answer {α : Type} {handler : Handler α} {b : Bridge} {reply : α}
    (h : answer handler b = .ok reply) : handler b = .ok reply (left handler b) := by
  rw [answer] at h
  rw [Bridge.left]
  cases hRun : handler b with
  | ok given next =>
    rw [hRun] at h
    cases h
    rfl
  | error refusal next =>
    rw [hRun] at h
    cases h

theorem eq_error_of_answer {α : Type} {handler : Handler α} {b : Bridge} {refusal : BridgeError}
    (h : answer handler b = .error refusal) : handler b = .error refusal (left handler b) := by
  rw [answer] at h
  rw [Bridge.left]
  cases hRun : handler b with
  | ok reply next =>
    rw [hRun] at h
    cases h
  | error given next =>
    rw [hRun] at h
    cases h
    rfl

/-- Runs that end the same way, in states that agree. -/
inductive Matched {α : Type} (R : Bridge → Bridge → Prop) :
    EStateM.Result BridgeError Bridge α → EStateM.Result BridgeError Bridge α → Prop
  | ok (reply : α) {b m : Bridge} (h : R b m) : Matched R (.ok reply b) (.ok reply m)
  | error (refusal : BridgeError) {b m : Bridge} (h : R b m) :
      Matched R (.error refusal b) (.error refusal m)

/-- From states that agree, two handlers end the same way in states that agree. -/
def Parallel {α : Type} (R : Bridge → Bridge → Prop) (x y : Handler α) : Prop :=
  ∀ b m, R b m → Matched R (x b) (y m)

variable {α β : Type} {R : Bridge → Bridge → Prop} {b m : Bridge} {x y : Handler α}
  {f g : α → Handler β}

/-! ## Single steps -/

theorem parallel_pure (a : α) : Parallel R (pure a : Handler α) (pure a) :=
  fun _ _ h => .ok a h

theorem parallel_throw (refusal : BridgeError) :
    Parallel R (throw refusal : Handler α) (throw refusal) :=
  fun _ _ h => .error refusal h

theorem parallel_set (h : R b m) : Parallel R (set b : Handler PUnit) (set m) :=
  fun _ _ _ => .ok _ h

theorem parallel_modify {change change' : Bridge → Bridge}
    (h : ∀ b m, R b m → R (change b) (change' m)) :
    Parallel R (modify change : Handler PUnit) (modify change') :=
  fun b m hR => .ok _ (h b m hR)

/-! ## Sequences -/

theorem Parallel.bind (hx : Parallel R x y) (hf : ∀ a, Parallel R (f a) (g a)) :
    Parallel R (x >>= f) (y >>= g) := by
  intro b m hR
  show Matched R (EStateM.bind x f b) (EStateM.bind y g m)
  have hFirst := hx b m hR
  rw [EStateM.bind, EStateM.bind]
  generalize x b = r, y m = s at hFirst
  cases hFirst with
  | ok a hNext => exact hf a _ _ hNext
  | error refusal hNext => exact .error refusal hNext

/-- What is read may differ, as long as the handlers go on in parallel. -/
theorem Parallel.get_bind {f g : Bridge → Handler β}
    (h : ∀ b m, R b m → Parallel R (f b) (g m)) : Parallel R (get >>= f) (get >>= g) :=
  fun b m hR => h b m hR b m hR

theorem Parallel.check_bind {e : Except BridgeError α}
    (h : ∀ a, e = .ok a → Parallel R (f a) (g a)) : Parallel R (check e >>= f) (check e >>= g) := by
  cases e with
  | ok a => exact fun b m hR => h a rfl b m hR
  | error refusal => exact fun _ _ hR => .error refusal hR

theorem Parallel.ite {c : Prop} [Decidable c] {x' y' : Handler α} (hx : Parallel R x y)
    (hy : Parallel R x' y') : Parallel R (if c then x else x') (if c then y else y') := by
  by_cases h : c
  · simpa only [if_pos h] using hx
  · simpa only [if_neg h] using hy

/-! ## Results -/

theorem Parallel.answer_eq (hx : Parallel R x y) (h : R b m) : answer x b = answer y m := by
  have hRun := hx b m h
  rw [answer, answer]
  generalize x b = r, y m = s at hRun
  cases hRun with
  | ok reply _ => rfl
  | error refusal _ => rfl

theorem Parallel.left (hx : Parallel R x y) (h : R b m) :
    R (Bridge.left x b) (Bridge.left y m) := by
  have hRun := hx b m h
  rw [Bridge.left, Bridge.left]
  generalize x b = r, y m = s at hRun
  cases hRun with
  | ok reply hAfter => exact hAfter
  | error refusal hAfter => exact hAfter

end TokenBridge.Bridge

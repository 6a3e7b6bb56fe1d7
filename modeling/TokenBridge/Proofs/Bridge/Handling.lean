import TokenBridge.Bridge.Basic

/-!
# Handlers step by step

A handler that ends well has ended well at each of its steps; the lemmas `*_eq_ok` take such a run
apart. A handler that checks everything before it writes is **clean**: a refusal leaves the state as
it was (`Clean`). Checks are clean and leave the state alone even when they succeed (`Reads`);
writes never refuse (`Sure`). A sequence is clean if only its last refusing step follows a write.

* `bind_eq_ok`, `check_eq_ok`, `write_eq_ok`, ...: inversion of a run that ends well;
* `Clean.bind`: checks first, then anything clean;
* `Clean.bind_sure`: something clean, then writes;
* `FailsWith`, `RefusesWith`: what the refusals of a check or of a handler are like, by the same
  steps.
-/

namespace TokenBridge.Bridge

theorem mapError_eq_ok {α ε ε' : Type} {e : Except ε α} {g : ε → ε'} {a : α} :
    e.mapError g = .ok a ↔ e = .ok a := by
  cases e with
  | ok other =>
    show (Except.ok other : Except ε' α) = .ok a ↔ _
    rw [Except.ok.injEq, Except.ok.injEq]
  | error _ =>
    constructor
    · intro h
      cases h
    · intro h
      cases h

theorem mapError_eq_error {α ε ε' : Type} {e : Except ε α} {g : ε → ε'} {refusal : ε'} :
    e.mapError g = .error refusal ↔ ∃ fault, e = .error fault ∧ g fault = refusal := by
  cases e with
  | ok a =>
    constructor
    · intro h
      cases h
    · rintro ⟨_, h, -⟩
      cases h
  | error fault =>
    show (Except.error (g fault) : Except ε' α) = .error refusal ↔ _
    rw [Except.error.injEq]
    constructor
    · exact fun h => ⟨fault, rfl, h⟩
    · rintro ⟨_, h, rfl⟩
      cases h
      rfl

theorem checked_bind_eq_ok {α β ε : Type} {e : Except ε α} {g : α → Except ε β} {reply : β} :
    e >>= g = .ok reply ↔ ∃ a, e = .ok a ∧ g a = .ok reply := by
  cases e with
  | ok a =>
    constructor
    · exact fun h => ⟨a, rfl, h⟩
    · rintro ⟨_, h, hg⟩
      cases h
      exact hg
  | error refusal =>
    constructor
    · intro h
      cases h
    · rintro ⟨_, h, _⟩
      cases h

variable {α β : Type} {b b' : Bridge} {x : Handler α} {f : α → Handler β}

/-! ## Runs that end well -/

theorem bind_eq_ok {reply : β} :
    (x >>= f) b = .ok reply b' ↔ ∃ a m, x b = .ok a m ∧ f a m = .ok reply b' := by
  show EStateM.bind x f b = _ ↔ _
  rw [EStateM.bind]
  cases hx : x b with
  | ok a m =>
    constructor
    · exact fun h => ⟨a, m, rfl, h⟩
    · rintro ⟨a', m', h, hf⟩
      cases h
      exact hf
  | error e m =>
    constructor
    · intro h
      cases h
    · rintro ⟨_, _, h, _⟩
      cases h

theorem bind_of_ok {a : α} (h : x b = .ok a b') : (x >>= f) b = f a b' := by
  show EStateM.bind x f b = _
  rw [EStateM.bind, h]

theorem bind_of_error {refusal : BridgeError} (h : x b = .error refusal b') :
    (x >>= f) b = .error refusal b' := by
  show EStateM.bind x f b = _
  rw [EStateM.bind, h]

theorem get_bind_apply {g : Bridge → Handler β} : (get >>= g) b = g b b := rfl

theorem pure_eq_ok {a reply : α} :
    (pure a : Handler α) b = .ok reply b' ↔ reply = a ∧ b' = b := by
  show EStateM.Result.ok a b = .ok reply b' ↔ _
  constructor
  · intro h
    cases h
    exact ⟨rfl, rfl⟩
  · rintro ⟨rfl, rfl⟩
    rfl

theorem throw_ne_ok {refusal : BridgeError} {reply : α} :
    (throw refusal : Handler α) b ≠ .ok reply b' := by
  intro h
  cases h

theorem guard_eq_ok {c : Prop} [Decidable c] {refusal : BridgeError} {next : PUnit → Handler α}
    {reply : α} :
    (if c then throw refusal >>= next else next ⟨⟩ : Handler α) b = .ok reply b' ↔
      ¬c ∧ next ⟨⟩ b = .ok reply b' := by
  by_cases h : c
  · rw [if_pos h]
    constructor
    · intro hBind
      obtain ⟨_, _, hThrow, _⟩ := bind_eq_ok.mp hBind
      exact absurd hThrow throw_ne_ok
    · exact fun hPass => absurd h hPass.1
  · rw [if_neg h]
    exact ⟨fun hRun => ⟨h, hRun⟩, And.right⟩

theorem check_eq_ok {e : Except BridgeError α} {reply : α} :
    check e b = .ok reply b' ↔ e = .ok reply ∧ b' = b := by
  cases e with
  | ok a =>
    rw [check, pure_eq_ok, Except.ok.injEq, eq_comm]
  | error refusal =>
    constructor
    · intro h
      cases h
    · rintro ⟨h, _⟩
      cases h

/-- A run that passes a check goes on from the same state. -/
theorem check_bind_eq_ok {e : Except BridgeError α} {reply : β} :
    (check e >>= f) b = .ok reply b' ↔ ∃ a, e = .ok a ∧ f a b = .ok reply b' := by
  rw [bind_eq_ok]
  constructor
  · rintro ⟨a, m, hCheck, h⟩
    obtain ⟨hOk, hState⟩ := check_eq_ok.mp hCheck
    exact ⟨a, hOk, hState ▸ h⟩
  · rintro ⟨a, hOk, h⟩
    exact ⟨a, b, check_eq_ok.mpr ⟨hOk, rfl⟩, h⟩

theorem check_eq_error {e : Except BridgeError α} {refusal : BridgeError} :
    check e b = .error refusal b' ↔ e = .error refusal ∧ b' = b := by
  cases e with
  | ok a =>
    constructor
    · intro h
      cases h
    · rintro ⟨h, -⟩
      cases h
  | error fault =>
    constructor
    · intro h
      cases h
      exact ⟨rfl, rfl⟩
    · rintro ⟨h, rfl⟩
      cases h
      rfl

theorem check_bind_of_ok {e : Except BridgeError α} {a : α} (h : e = .ok a) :
    (check e >>= f) b = f a b := by
  rw [h]
  rfl

theorem modify_eq_ok {g : Bridge → Bridge} {u : PUnit} :
    (modify g : Handler PUnit) b = .ok u b' ↔ b' = g b := by
  constructor
  · intro h
    cases h
    rfl
  · rintro rfl
    rfl

theorem write_eq_ok {g : Store → Store} {u : Unit} :
    write g b = .ok u b' ↔ b' = { b with store := g b.store } :=
  modify_eq_ok

theorem count_eq_ok {counter : Counter} {u : Unit} :
    count counter b = .ok u b' ↔ b' = { b with counters := b.counters.bump counter } :=
  modify_eq_ok

theorem set_eq_ok {next : Bridge} {u : PUnit} :
    (set next : Handler PUnit) b = .ok u b' ↔ b' = next := by
  constructor
  · intro h
    cases h
    rfl
  · rintro rfl
    rfl

/-! ## Refusals -/

/-- A refusal leaves the state as it was. -/
def Clean (x : Handler α) : Prop :=
  ∀ ⦃b refusal b'⦄, x b = .error refusal b' → b' = b

/-- Neither a refusal nor an answer changes the state. -/
structure Reads (x : Handler α) : Prop where
  clean : Clean x
  keeps : ∀ ⦃b a b'⦄, x b = .ok a b' → b' = b

/-- There is no refusal. -/
def Sure (x : Handler α) : Prop :=
  ∀ b refusal b', x b ≠ .error refusal b'

theorem bind_eq_error {refusal : BridgeError} :
    (x >>= f) b = .error refusal b' ↔
      x b = .error refusal b' ∨ ∃ a m, x b = .ok a m ∧ f a m = .error refusal b' := by
  show EStateM.bind x f b = _ ↔ _
  rw [EStateM.bind]
  cases hx : x b with
  | ok a m =>
    constructor
    · exact fun h => Or.inr ⟨a, m, rfl, h⟩
    · rintro (h | ⟨a', m', h, hf⟩)
      · cases h
      · cases h
        exact hf
  | error e m =>
    constructor
    · intro h
      cases h
      exact Or.inl rfl
    · rintro (h | ⟨_, _, h, _⟩)
      · cases h
        rfl
      · cases h

theorem map_eq_error {g : α → β} {refusal : BridgeError} :
    (g <$> x) b = .error refusal b' ↔ x b = .error refusal b' := by
  show EStateM.map g x b = _ ↔ _
  rw [EStateM.map]
  cases x b with
  | ok a m =>
    constructor
    · intro h
      cases h
    · intro h
      cases h
  | error fault m =>
    rw [EStateM.Result.error.injEq, EStateM.Result.error.injEq]

theorem Clean.bind (hx : Reads x) (hf : ∀ a, Clean (f a)) : Clean (x >>= f) := by
  intro b refusal b' h
  rcases bind_eq_error.mp h with h | ⟨a, m, hOk, h⟩
  · exact hx.clean h
  · rw [hf a h, hx.keeps hOk]

theorem Clean.bind_sure (hx : Clean x) (hf : ∀ a, Sure (f a)) : Clean (x >>= f) := by
  intro b refusal b' h
  rcases bind_eq_error.mp h with h | ⟨a, m, _, h⟩
  · exact hx h
  · exact absurd h (hf a m refusal b')

theorem Clean.get_bind {g : Bridge → Handler β} (h : ∀ b, Clean (g b)) : Clean (get >>= g) :=
  fun b _ _ hError => h b hError

theorem Clean.ite {c : Prop} [Decidable c] {y : Handler α} (hx : Clean x) (hy : Clean y) :
    Clean (if c then x else y) := by
  by_cases h : c
  · rw [if_pos h]
    exact hx
  · rw [if_neg h]
    exact hy

theorem Clean.map (g : α → β) (hx : Clean x) : Clean (g <$> x) :=
  fun _ _ _ h => hx (map_eq_error.mp h)

theorem Sure.clean (h : Sure x) : Clean x :=
  fun b refusal b' hError => absurd hError (h b refusal b')

theorem Sure.bind (hx : Sure x) (hf : ∀ a, Sure (f a)) : Sure (x >>= f) := by
  intro b refusal b' h
  rcases bind_eq_error.mp h with h | ⟨a, m, _, h⟩
  · exact hx b refusal b' h
  · exact hf a m refusal b' h

theorem clean_throw (refusal : BridgeError) : Clean (throw refusal : Handler α) := by
  intro b e b' h
  cases h
  rfl

theorem Clean.guard {c : Prop} [Decidable c] {refusal : BridgeError} {next : PUnit → Handler α}
    (h : Clean (next ⟨⟩)) : Clean (if c then throw refusal >>= next else next ⟨⟩ : Handler α) :=
  Clean.ite (Clean.bind ⟨clean_throw _, fun _ _ _ hOk => absurd hOk throw_ne_ok⟩ fun _ => h) h

theorem reads_check (e : Except BridgeError α) : Reads (check e) where
  clean := by
    intro b refusal b' h
    cases e with
    | ok a => cases h
    | error fault =>
      cases h
      rfl
  keeps _ _ _ h := (check_eq_ok.mp h).2

theorem sure_pure (a : α) : Sure (pure a : Handler α) := by
  intro b e b' h
  cases h

theorem sure_modify (g : Bridge → Bridge) : Sure (modify g) := by
  intro b e b' h
  cases h

theorem sure_write (g : Store → Store) : Sure (write g) :=
  sure_modify _

theorem sure_count (counter : Counter) : Sure (count counter) :=
  sure_modify _

theorem sure_report (signals : List SlashingSignal) : Sure (report signals) :=
  sure_modify _

theorem sure_set (next : Bridge) : Sure (set next : Handler PUnit) := by
  intro b e b' h
  cases h

/-! ## What refusals are like -/

/-- Every fault of a check satisfies `P`. -/
def FailsWith (P : BridgeError → Prop) (e : Except BridgeError α) : Prop :=
  ∀ ⦃refusal⦄, e = .error refusal → P refusal

/-- Every refusal of a handler in a state satisfies `P`. -/
def RefusesWith (P : BridgeError → Prop) (x : Handler α) (b : Bridge) : Prop :=
  ∀ ⦃refusal b'⦄, x b = .error refusal b' → P refusal

section Refusals

variable {P Q : BridgeError → Prop} {e : Except BridgeError α}

theorem failsWith_ok (a : α) : FailsWith P (.ok a : Except BridgeError α) := by
  intro refusal h
  cases h

theorem failsWith_error {refusal : BridgeError} (h : P refusal) :
    FailsWith P (.error refusal : Except BridgeError α) := by
  intro fault hFault
  cases hFault
  exact h

theorem FailsWith.mapError {ε : Type} {e : Except ε α} {g : ε → BridgeError}
    (h : ∀ fault, P (g fault)) : FailsWith P (e.mapError g) := by
  intro refusal hError
  obtain ⟨fault, -, rfl⟩ := mapError_eq_error.mp hError
  exact h fault

theorem FailsWith.bind {g : α → Except BridgeError β} (he : FailsWith P e)
    (hg : ∀ a, FailsWith P (g a)) : FailsWith P (e >>= g) := by
  cases e with
  | ok a => exact hg a
  | error fault =>
    intro refusal h
    cases h
    exact he rfl

theorem FailsWith.mono (h : FailsWith P e) (hImp : ∀ refusal, P refusal → Q refusal) :
    FailsWith Q e :=
  fun refusal hError => hImp refusal (h hError)

theorem RefusesWith.mono (h : RefusesWith P x b) (hImp : ∀ refusal, P refusal → Q refusal) :
    RefusesWith Q x b :=
  fun refusal _ hError => hImp refusal (h hError)

/-- Only what a handler does in the state at hand matters. -/
theorem RefusesWith.congr {y : Handler α} (hSame : x b = y b) (h : RefusesWith P y b) :
    RefusesWith P x b :=
  fun _ _ hError => h (hSame ▸ hError)

theorem RefusesWith.get_bind {g : Bridge → Handler β} (h : RefusesWith P (g b) b) :
    RefusesWith P (get >>= g) b :=
  h

theorem Sure.refusesWith (h : Sure x) : RefusesWith P x b :=
  fun refusal b' hError => absurd hError (h b refusal b')

theorem refusesWith_throw {refusal : BridgeError} (h : P refusal) :
    RefusesWith P (throw refusal : Handler α) b := by
  intro fault b' hError
  cases hError
  exact h

theorem refusesWith_check (h : FailsWith P e) : RefusesWith P (check e) b :=
  fun _ _ hError => h (check_eq_error.mp hError).1

theorem RefusesWith.check_bind (he : FailsWith P e)
    (hf : ∀ a, e = .ok a → RefusesWith P (f a) b) : RefusesWith P (check e >>= f) b := by
  intro refusal b' h
  rcases bind_eq_error.mp h with hCheck | ⟨a, m, hCheck, hRest⟩
  · exact refusesWith_check he hCheck
  · obtain ⟨hOk, rfl⟩ := check_eq_ok.mp hCheck
    exact hf a hOk hRest

theorem RefusesWith.bind_sure (hx : RefusesWith P x b) (hf : ∀ a, Sure (f a)) :
    RefusesWith P (x >>= f) b := by
  intro refusal b' h
  rcases bind_eq_error.mp h with h | ⟨a, m, -, h⟩
  · exact hx h
  · exact absurd h (hf a m refusal b')

theorem RefusesWith.ite {c : Prop} [Decidable c] {y : Handler α}
    (hx : c → RefusesWith P x b) (hy : ¬c → RefusesWith P y b) :
    RefusesWith P (if c then x else y) b := by
  by_cases h : c
  · rw [if_pos h]
    exact hx h
  · rw [if_neg h]
    exact hy h

theorem RefusesWith.guard {c : Prop} [Decidable c] {refusal : BridgeError}
    {next : PUnit → Handler α} (hc : c → P refusal) (h : RefusesWith P (next ⟨⟩) b) :
    RefusesWith P (if c then throw refusal >>= next else next ⟨⟩ : Handler α) b := by
  refine .ite (fun hHit fault b' hError => ?_) fun _ => h
  rcases bind_eq_error.mp hError with hThrow | ⟨_, _, hThrow, -⟩
  · exact refusesWith_throw (hc hHit) hThrow
  · exact absurd hThrow throw_ne_ok

theorem RefusesWith.map (g : α → β) (hx : RefusesWith P x b) : RefusesWith P (g <$> x) b :=
  fun _ _ h => hx (map_eq_error.mp h)

end Refusals

end TokenBridge.Bridge

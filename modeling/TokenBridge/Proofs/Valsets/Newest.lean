import TokenBridge.Proofs.Claims.Agreement
import TokenBridge.Proofs.Valsets.Canonical

/-!
# The newest signer set

Stored signer sets are listed by rising nonce, so that the last one is the newest. A new set takes
the nonce above it, and the execution of a set forgets older ones only.

* `Store.newestValset`: the nonce of the newest set, zero if there is none;
* `le_newestValset`, `newestValset_eq`: it is the greatest nonce of a stored set;
* `latestValset?_eq_some_iff`: the set that has it;
* `valset?_foldl_dropValset`, `valsetConfirm?_foldl_dropValset`: look-ups after sets were forgotten;
* `executeValset_cases`: the execution of a set forgets the older ones, or changes nothing;
* `newestValset_putValset`, `newestValset_executeValset`: the newest set afterwards.
-/

namespace TokenBridge

theorem Nonce.before_iff {m n : Nonce} : Before m n ↔ m < n := by
  show [m.toNat] < [n.toNat] ↔ m.toNat < n.toNat
  rw [List.cons_lt_cons_iff]
  constructor
  · rintro (hLess | ⟨-, hNil⟩)
    · exact hLess
    · cases hNil
  · exact Or.inl

namespace Store

variable {s : Store} {nonce m : Nonce} {v : Valset}

/-! ## The newest set -/

/-- The nonce of the newest signer set, or zero. -/
def newestValset (s : Store) : Nonce :=
  (s.latestValset?.map Valset.nonce).getD .zero

theorem pairwise_valsets (h : s.valsets.KeyedBy Valset.nonce) :
    s.valsets.values.Pairwise fun v w => v.nonce < w.nonce :=
  h.pairwise_values.imp Nonce.before_iff.mp

theorem mem_valsets_iff (h : s.valsets.KeyedBy Valset.nonce) :
    v ∈ s.valsets.values ↔ s.valset? v.nonce = some v :=
  h.mem_values_iff

/-- Where a set is stored, the newest one is the last that is listed. -/
theorem exists_last (hMem : v ∈ s.valsets.values) :
    ∃ older newest, s.valsets.values = older ++ [newest] ∧ s.newestValset = newest.nonce := by
  cases hLast : s.valsets.values.getLast? with
  | none =>
    rw [List.getLast?_eq_none_iff.mp hLast] at hMem
    exact absurd hMem List.not_mem_nil
  | some newest =>
    obtain ⟨older, hSplit⟩ := List.getLast?_eq_some_iff.mp hLast
    refine ⟨older, newest, hSplit, ?_⟩
    rw [newestValset, latestValset?, hLast, Option.map_some, Option.getD_some]

theorem le_newestValset (h : s.valsets.KeyedBy Valset.nonce) (hFound : s.valset? nonce = some v) :
    nonce ≤ s.newestValset := by
  have hMem : v ∈ s.valsets.values := Table.mem_values_of_find? hFound
  have hNonce : v.nonce = nonce := h _ _ hFound
  have hSorted := pairwise_valsets h
  obtain ⟨older, newest, hSplit, hNewest⟩ := exists_last hMem
  rw [hSplit] at hMem hSorted
  rw [hNewest, ← hNonce]
  rcases List.mem_append.mp hMem with hOlder | hEq
  · have hLess := (List.pairwise_append.mp hSorted).2.2 v hOlder newest List.mem_cons_self
    exact Nat.le_of_lt hLess
  · rw [List.mem_singleton.mp hEq]
    exact Nat.le_refl _

/-- The greatest nonce of a stored set is that of the newest one. -/
theorem newestValset_eq (h : s.valsets.KeyedBy Valset.nonce) (hFound : s.valset? nonce = some v)
    (hTop : ∀ m w, s.valset? m = some w → m ≤ nonce) : s.newestValset = nonce := by
  have hLow : nonce ≤ s.newestValset := le_newestValset h hFound
  have hHigh : s.newestValset ≤ nonce := by
    rw [newestValset, latestValset?]
    cases hLast : s.valsets.values.getLast? with
    | none => exact Nat.zero_le _
    | some newest =>
      have hStored := (mem_valsets_iff h).mp (List.mem_of_getLast? hLast)
      exact hTop newest.nonce newest hStored
  exact Nonce.ext_toNat (Nat.le_antisymm hHigh hLow)

theorem exists_newestValset (h : s.valsets.KeyedBy Valset.nonce)
    (hFound : s.valset? nonce = some v) : ∃ w, s.valset? s.newestValset = some w := by
  obtain ⟨older, newest, hSplit, hNewest⟩ := exists_last (Table.mem_values_of_find? hFound)
  have hListed : newest ∈ s.valsets.values :=
    hSplit ▸ List.mem_append_right older List.mem_cons_self
  exact ⟨newest, hNewest ▸ (mem_valsets_iff h).mp hListed⟩

theorem newestValset_congr {s' : Store} (hValsets : s'.valsets = s.valsets) :
    s'.newestValset = s.newestValset := by
  rw [newestValset, latestValset?, hValsets, newestValset, latestValset?]

theorem valset?_putValset (s : Store) (v : Valset) (nonce : Nonce) :
    (s.putValset v).valset? nonce = if nonce = v.nonce then some v else s.valset? nonce :=
  Table.find?_insert _ _ _ _

theorem newestValset_putValset (h : s.valsets.KeyedBy Valset.nonce)
    (hAbove : s.newestValset < v.nonce) : (s.putValset v).newestValset = v.nonce := by
  have hKeyed : (s.putValset v).valsets.KeyedBy Valset.nonce := h.insert v
  have hFound : (s.putValset v).valset? v.nonce = some v := by
    rw [valset?_putValset, if_pos rfl]
  refine newestValset_eq hKeyed hFound fun m w hStored => ?_
  rw [valset?_putValset] at hStored
  by_cases hSame : m = v.nonce
  · rw [hSame]
    exact Nat.le_refl _
  · rw [if_neg hSame] at hStored
    have hOld : m.toNat ≤ s.newestValset.toNat := le_newestValset h hStored
    exact Nat.le_of_lt (Nat.lt_of_le_of_lt hOld hAbove)

theorem latestValset?_eq_some_iff (h : s.valsets.KeyedBy Valset.nonce) :
    s.latestValset? = some v ↔
      v ∈ s.valsets.values ∧ ∀ w ∈ s.valsets.values, w.nonce ≤ v.nonce := by
  constructor
  · intro hLatest
    have hNewest : s.newestValset = v.nonce := by
      rw [newestValset, hLatest, Option.map_some, Option.getD_some]
    refine ⟨List.mem_of_getLast? hLatest, fun w hMem => ?_⟩
    rw [← hNewest]
    exact le_newestValset h ((mem_valsets_iff h).mp hMem)
  · rintro ⟨hMem, hTop⟩
    have hStored : s.valset? v.nonce = some v := (mem_valsets_iff h).mp hMem
    have hNewest : s.newestValset = v.nonce := by
      refine newestValset_eq h hStored fun m w hFound => ?_
      rw [← h m w hFound]
      exact hTop w (Table.mem_values_of_find? hFound)
    obtain ⟨older, newest, hSplit, hLast⟩ := exists_last hMem
    have hFound : s.valset? newest.nonce = some newest :=
      (mem_valsets_iff h).mp (hSplit ▸ List.mem_append_right older List.mem_cons_self)
    rw [← hLast, hNewest, hStored] at hFound
    rw [latestValset?, hSplit, List.getLast?_concat, hFound]

theorem latestValset?_putValset (h : s.valsets.KeyedBy Valset.nonce)
    (hAbove : s.newestValset < v.nonce) : (s.putValset v).latestValset? = some v := by
  have hKeyed : (s.putValset v).valsets.KeyedBy Valset.nonce := h.insert v
  refine (latestValset?_eq_some_iff hKeyed).mpr ⟨?_, fun w hMem => ?_⟩
  · rw [mem_valsets_iff hKeyed, valset?_putValset, if_pos rfl]
  · rcases Table.mem_values_of_insert hMem with rfl | hOld
    · exact Nat.le_refl _
    · have hLow : w.nonce.toNat ≤ s.newestValset.toNat :=
        le_newestValset h ((mem_valsets_iff h).mp hOld)
      exact Nat.le_of_lt (Nat.lt_of_le_of_lt hLow hAbove)

/-! ## Forgetting older sets -/

theorem valset?_dropValset (s : Store) (nonce m : Nonce) :
    (s.dropValset nonce).valset? m = if m = nonce then none else s.valset? m :=
  Table.find?_erase _ _ _

theorem valsetConfirm?_dropValset (s : Store) (nonce m : Nonce) (validator : ValidatorAddress) :
    (s.dropValset nonce).valsetConfirm? m validator =
      if m = nonce then none else s.valsetConfirm? m validator := by
  rw [dropValset, deleteValset, deleteValsetConfirms, valsetConfirm?, Table.find?_filter,
    ← valsetConfirm?]
  by_cases hSame : m = nonce
  · rw [if_pos hSame, Option.filter_eq_none_iff]
    simp [hSame]
  · rw [if_neg hSame]
    cases s.valsetConfirm? m validator with
    | none => rfl
    | some c => simp [Option.filter, hSame]

/-- A look-up that each set takes its own answers from loses those of all the sets. -/
theorem look_foldl_dropValset {α : Type} (look : Store → Option α)
    (hDrop : ∀ s nonce, look (s.dropValset nonce) = if m = nonce then none else look s)
    (l : List Nonce) (s : Store) :
    look (l.foldl dropValset s) = if m ∈ l then none else look s := by
  induction l generalizing s with
  | nil => rw [List.foldl_nil, if_neg List.not_mem_nil]
  | cons first rest ih =>
    rw [List.foldl_cons, ih, hDrop]
    by_cases hRest : m ∈ rest
    · rw [if_pos hRest, if_pos (List.mem_cons_of_mem _ hRest)]
    · rw [if_neg hRest]
      simp only [List.mem_cons, hRest, or_false]

theorem valset?_foldl_dropValset (l : List Nonce) (s : Store) (m : Nonce) :
    (l.foldl dropValset s).valset? m = if m ∈ l then none else s.valset? m :=
  look_foldl_dropValset (fun s => s.valset? m) (fun s nonce => valset?_dropValset s nonce m) l s

theorem valsetConfirm?_foldl_dropValset (l : List Nonce) (s : Store) (m : Nonce)
    (validator : ValidatorAddress) :
    (l.foldl dropValset s).valsetConfirm? m validator =
      if m ∈ l then none else s.valsetConfirm? m validator :=
  look_foldl_dropValset (fun s => s.valsetConfirm? m validator)
    (fun s nonce => valsetConfirm?_dropValset s nonce m validator) l s

theorem mem_olderValsets (h : s.valsets.KeyedBy Valset.nonce) :
    m ∈ s.olderValsets nonce ↔ (∃ v, s.valset? m = some v) ∧ m < nonce := by
  rw [olderValsets, List.mem_filter, List.mem_map, decide_eq_true_iff]
  refine and_congr_left fun _ => ?_
  constructor
  · rintro ⟨v, hMem, rfl⟩
    exact ⟨v, (mem_valsets_iff h).mp hMem⟩
  · rintro ⟨v, hFound⟩
    exact ⟨v, Table.mem_values_of_find? hFound, h _ _ hFound⟩

/-- The execution of a set changes nothing, or the set is stored, and what stays is what is not
older, with its confirmations. -/
theorem executeValset_cases (h : s.valsets.KeyedBy Valset.nonce) (nonce : Nonce) :
    s.executeValset nonce = s ∨
      (∃ v, s.valset? nonce = some v) ∧
      (s.executeValset nonce).observedValset = some nonce ∧
      (∀ m, (s.executeValset nonce).valset? m = if m < nonce then none else s.valset? m) ∧
      ∀ m v, (s.executeValset nonce).valset? m = some v → ∀ validator,
        (s.executeValset nonce).valsetConfirm? m validator = s.valsetConfirm? m validator := by
  rw [executeValset]
  by_cases hKept : (s.valset? nonce).isNone || s.observedValset.any (nonce ≤ ·)
  · exact Or.inl (if_pos hKept)
  · rw [if_neg hKept]
    have hStored : ∃ v, s.valset? nonce = some v := by
      cases hFound : s.valset? nonce with
      | none =>
        rw [hFound] at hKept
        exact absurd rfl hKept
      | some v => exact ⟨v, rfl⟩
    have hFind (m : Nonce) : ((s.olderValsets nonce).foldl dropValset
        { s with observedValset := some nonce }).valset? m =
          if m < nonce then none else s.valset? m := by
      have hBefore : ({ s with observedValset := some nonce } : Store).valset? m = s.valset? m :=
        rfl
      rw [valset?_foldl_dropValset, hBefore]
      by_cases hOlder : m < nonce
      · rw [if_pos hOlder]
        cases hFound : s.valset? m with
        | none => exact ite_self none
        | some v => exact if_pos ((mem_olderValsets h).mpr ⟨⟨v, hFound⟩, hOlder⟩)
      · rw [if_neg hOlder, if_neg fun hMem => hOlder ((mem_olderValsets h).mp hMem).2]
    refine Or.inr ⟨hStored, ?_, hFind, fun m v hLeft validator => ?_⟩
    · obtain ⟨_, _, hFrame⟩ :=
        foldl_dropValset_frame (s.olderValsets nonce) { s with observedValset := some nonce }
      rw [hFrame]
    · rw [hFind] at hLeft
      rw [valsetConfirm?_foldl_dropValset]
      by_cases hOlder : m < nonce
      · rw [if_pos hOlder] at hLeft
        cases hLeft
      · rw [if_neg fun hMem => hOlder ((mem_olderValsets h).mp hMem).2]
        rfl

theorem newestValset_executeValset (h : s.valsets.KeyedBy Valset.nonce) (nonce : Nonce) :
    (s.executeValset nonce).newestValset = s.newestValset := by
  have hKeyed : (s.executeValset nonce).valsets.KeyedBy Valset.nonce :=
    executeValset_induction (P := fun s => s.valsets.KeyedBy Valset.nonce) (fun _ _ h => h)
      (fun _ older h => h.erase older) h nonce
  rcases executeValset_cases h nonce with hSame | ⟨⟨v, hStored⟩, -, hFind, -⟩
  · rw [hSame]
  · obtain ⟨newest, hNewest⟩ := exists_newestValset h hStored
    have hNotOlder : ¬s.newestValset < nonce := Nat.not_lt.mpr (le_newestValset h hStored)
    have hLeft : (s.executeValset nonce).valset? s.newestValset = some newest := by
      rw [hFind, if_neg hNotOlder, hNewest]
    refine newestValset_eq hKeyed hLeft fun m w hFound => ?_
    rw [hFind] at hFound
    by_cases hOlder : m < nonce
    · rw [if_pos hOlder] at hFound
      cases hFound
    · rw [if_neg hOlder] at hFound
      exact le_newestValset h hFound

end Store

end TokenBridge

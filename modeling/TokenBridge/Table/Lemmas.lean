import TokenBridge.Table.Basic

/-!
# Look-ups in tables

* `mem_entries_iff`: the entries are the look-ups;
* `find?_insert`, `find?_erase`, `find?_filter`: what each operation does to the look-ups;
* `ext_find?`: a table is determined by its look-ups.
-/

namespace TokenBridge.Table

variable {κ υ : Type} [Ranked κ]

/-! ## Entry lists -/

theorem mem_place_iff {key : κ} {value : υ} {l : List (κ × υ)}
    (h : l.Pairwise fun a b => Before a.1 b.1) {entry : κ × υ} :
    entry ∈ place key value l ↔ entry = (key, value) ∨ entry ∈ l ∧ entry.1 ≠ key := by
  induction l with
  | nil => simp [place]
  | cons first rest ih =>
    obtain ⟨hFirst, hRest⟩ := List.pairwise_cons.mp h
    rw [place]
    split
    · rename_i hBefore
      have hNe : ∀ e ∈ first :: rest, e.1 ≠ key := by
        intro e he
        rcases List.mem_cons.mp he with rfl | he
        · exact (before_ne hBefore).symm
        · exact (before_ne (before_trans hBefore (hFirst e he))).symm
      rw [List.mem_cons]
      exact or_congr_right ⟨fun he => ⟨he, hNe entry he⟩, And.left⟩
    · rename_i hNot
      split
      · rename_i hAfter
        rw [List.mem_cons, ih hRest, List.mem_cons]
        constructor
        · rintro (rfl | rfl | ⟨h₁, h₂⟩)
          · exact Or.inr ⟨Or.inl rfl, before_ne hAfter⟩
          · exact Or.inl rfl
          · exact Or.inr ⟨Or.inr h₁, h₂⟩
        · rintro (rfl | ⟨rfl | h₁, h₂⟩)
          · exact Or.inr (Or.inl rfl)
          · exact Or.inl rfl
          · exact Or.inr (Or.inr ⟨h₁, h₂⟩)
      · rename_i hNot'
        have hEq : first.1 = key := (eq_or_before_of_not_before hNot).resolve_right hNot'
        rw [List.mem_cons, List.mem_cons]
        constructor
        · rintro (rfl | he)
          · exact Or.inl rfl
          · exact Or.inr ⟨Or.inr he, hEq ▸ (before_ne (hFirst entry he)).symm⟩
        · rintro (rfl | ⟨rfl | he, hNe⟩)
          · exact Or.inl rfl
          · exact absurd hEq hNe
          · exact Or.inr he

theorem eq_of_mem_of_mem {l : List (κ × υ)} (h : l.Pairwise fun a b => Before a.1 b.1)
    {key : κ} {v w : υ} (hv : (key, v) ∈ l) (hw : (key, w) ∈ l) : v = w := by
  induction l with
  | nil => cases hv
  | cons first rest ih =>
    obtain ⟨hFirst, hRest⟩ := List.pairwise_cons.mp h
    rcases List.mem_cons.mp hv with hv' | hv'
    · subst hv'
      rcases List.mem_cons.mp hw with hw' | hw'
      · exact (Prod.mk.inj hw').2.symm
      · have hLess : Before key key := hFirst (key, w) hw'
        exact (before_irrefl key hLess).elim
    · rcases List.mem_cons.mp hw with hw' | hw'
      · subst hw'
        have hLess : Before key key := hFirst (key, v) hv'
        exact (before_irrefl key hLess).elim
      · exact ih hRest hv' hw'

theorem eq_of_mem_iff : ∀ {l m : List (κ × υ)}, (l.Pairwise fun a b => Before a.1 b.1) →
    (m.Pairwise fun a b => Before a.1 b.1) → (∀ entry, entry ∈ l ↔ entry ∈ m) → l = m
  | [], [], _, _, _ => rfl
  | [], first :: _, _, _, h => absurd ((h first).mpr List.mem_cons_self) List.not_mem_nil
  | first :: _, [], _, _, h => absurd ((h first).mp List.mem_cons_self) List.not_mem_nil
  | a :: l, b :: m, hl, hm, h => by
    obtain ⟨ha, hl'⟩ := List.pairwise_cons.mp hl
    obtain ⟨hb, hm'⟩ := List.pairwise_cons.mp hm
    have hab : a = b := by
      rcases List.mem_cons.mp ((h a).mp List.mem_cons_self) with hab | hab
      · exact hab
      · rcases List.mem_cons.mp ((h b).mpr List.mem_cons_self) with hba | hba
        · exact hba.symm
        · exact absurd (before_trans (hb a hab) (ha b hba)) (before_irrefl _)
    subst hab
    rw [eq_of_mem_iff hl' hm' fun entry => ?_]
    constructor
    · intro he
      rcases List.mem_cons.mp ((h entry).mp (List.mem_cons_of_mem _ he)) with rfl | hem
      · exact absurd (ha _ he) (before_irrefl _)
      · exact hem
    · intro he
      rcases List.mem_cons.mp ((h entry).mpr (List.mem_cons_of_mem _ he)) with rfl | hel
      · exact absurd (hb _ he) (before_irrefl _)
      · exact hel

/-! ## Look-ups -/

theorem mem_entries_iff {t : Table κ υ} {key : κ} {value : υ} :
    (key, value) ∈ t.entries ↔ t.find? key = some value := by
  rw [find?, Option.map_eq_some_iff]
  constructor
  · intro h
    cases hf : t.entries.find? fun entry => rank entry.1 == rank key with
    | none =>
      have := List.find?_eq_none.mp hf _ h
      simp at this
    | some entry =>
      have hMem := List.mem_of_find?_eq_some hf
      have hKey := List.find?_some hf
      simp only [beq_iff_eq] at hKey
      obtain ⟨k, v⟩ := entry
      cases Ranked.rank_injective hKey
      exact ⟨_, rfl, eq_of_mem_of_mem t.sorted hMem h⟩
  · rintro ⟨⟨k, v⟩, hf, rfl⟩
    have hMem := List.mem_of_find?_eq_some hf
    have hKey := List.find?_some hf
    simp only [beq_iff_eq] at hKey
    cases Ranked.rank_injective hKey
    exact hMem

@[simp] theorem find?_empty (key : κ) : (empty : Table κ υ).find? key = none :=
  rfl

private theorem find?_eq_of_mem_iff {t : Table κ υ} {key : κ} {o : Option υ}
    (h : ∀ value, (key, value) ∈ t.entries ↔ o = some value) : t.find? key = o := by
  apply Option.ext
  intro value
  rw [← mem_entries_iff]
  exact h value

theorem find?_insert [DecidableEq κ] (t : Table κ υ) (key : κ) (value : υ) (other : κ) :
    (t.insert key value).find? other = if other = key then some value else t.find? other := by
  apply find?_eq_of_mem_iff
  intro v
  show (other, v) ∈ place key value t.entries ↔ _
  rw [mem_place_iff t.sorted]
  split
  · rename_i h
    subst h
    simp [eq_comm]
  · rename_i h
    simp [h, mem_entries_iff]

theorem find?_filter (t : Table κ υ) (keep : κ → υ → Bool) (key : κ) :
    (t.filter keep).find? key = (t.find? key).filter (keep key) := by
  apply find?_eq_of_mem_iff
  intro v
  show (key, v) ∈ t.entries.filter _ ↔ _
  simp only [List.mem_filter, mem_entries_iff, Option.filter_eq_some_iff]

theorem find?_erase [DecidableEq κ] (t : Table κ υ) (key other : κ) :
    (t.erase key).find? other = if other = key then none else t.find? other := by
  rw [erase, find?_filter]
  split
  · rename_i h
    subst h
    cases t.find? other <;> simp [Option.filter]
  · rename_i h
    have hRank : rank other ≠ rank key := fun he => h (Ranked.rank_injective he)
    cases t.find? other <;> simp [Option.filter, hRank]

/-- A table is determined by its look-ups. -/
theorem ext_find? {t u : Table κ υ} (h : ∀ key, t.find? key = u.find? key) : t = u := by
  have hEntries : t.entries = u.entries := by
    apply eq_of_mem_iff t.sorted u.sorted
    rintro ⟨key, value⟩
    rw [mem_entries_iff, mem_entries_iff, h key]
  cases t
  cases u
  simp_all

theorem mem_values_iff {t : Table κ υ} {value : υ} :
    value ∈ t.values ↔ ∃ key, t.find? key = some value := by
  simp only [values, List.mem_map, ← mem_entries_iff]
  constructor
  · rintro ⟨⟨key, _⟩, h, rfl⟩
    exact ⟨key, h⟩
  · rintro ⟨key, h⟩
    exact ⟨_, h, rfl⟩

end TokenBridge.Table

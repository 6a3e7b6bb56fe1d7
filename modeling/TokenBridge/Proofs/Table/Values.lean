import TokenBridge.Table.Lemmas

/-!
# The values of a table

Listed without their order, the values behave like a bag: a new key adds its value, a key that is
taken away takes its value along.

* `perm_values_insert`, `perm_values_of_find?`: the value under a key stands apart from the others;
* `perm_values_insert_of_none`: a value under a new key is added;
* `values_eq_filterMap`: all values are changed or dropped in their places;
* `KeyedBy`: each value stands under a key that it names itself; then the values are told apart by
  that key (`KeyedBy.nodup`) and listed in its order (`KeyedBy.pairwise_values`);
* `perm_values_foldl_insert`, `perm_values_foldl_erase`, `foldl_erase_eq_filter`: many values at
  once;
* `foldl_insert_eq`: a table is built again from its entries, in any order;
* `Refers`: each value also names a key of another table.
-/

namespace TokenBridge.Table

variable {κ υ : Type} [Ranked κ] [DecidableEq κ] {t : Table κ υ} {key : κ} {value : υ}

/-! ## Taking a key away and putting it back -/

theorem erase_of_find?_eq_none (h : t.find? key = none) : t.erase key = t := by
  apply ext_find?
  intro other
  rw [find?_erase]
  split
  · rename_i hEq
    rw [hEq, h]
  · rfl

theorem insert_erase (t : Table κ υ) (key : κ) (value : υ) :
    (t.erase key).insert key value = t.insert key value := by
  apply ext_find?
  intro other
  rw [find?_insert, find?_insert, find?_erase]
  split <;> rfl

theorem insert_erase_of_find? (h : t.find? key = some value) :
    (t.erase key).insert key value = t := by
  apply ext_find?
  intro other
  rw [find?_insert, find?_erase]
  split
  · rename_i hEq
    rw [hEq, h]
  · rfl

theorem ne_of_mem_erase {entry : κ × υ} (h : entry ∈ (t.erase key).entries) : entry.1 ≠ key := by
  rintro rfl
  have hFound : (t.erase entry.1).find? entry.1 = some entry.2 := mem_entries_iff.mp h
  rw [find?_erase, if_pos rfl] at hFound
  cases hFound

/-! ## Values -/

omit [DecidableEq κ] in
theorem perm_place {l : List (κ × υ)} (h : ∀ entry ∈ l, entry.1 ≠ key) :
    (place key value l).Perm ((key, value) :: l) := by
  induction l with
  | nil => exact .refl _
  | cons first rest ih =>
    rw [place]
    split
    · exact .refl _
    · rename_i hNot
      split
      · have hRest := ih fun entry he => h entry (List.mem_cons_of_mem _ he)
        exact (hRest.cons first).trans (.swap _ _ _)
      · rename_i hNot'
        have hEq := (eq_or_before_of_not_before hNot).resolve_right hNot'
        exact absurd hEq (h first List.mem_cons_self)

/-- After an insertion the new value stands beside those of the other keys. -/
theorem perm_values_insert (t : Table κ υ) (key : κ) (value : υ) :
    (t.insert key value).values.Perm (value :: (t.erase key).values) := by
  rw [← insert_erase]
  exact (perm_place fun _ => ne_of_mem_erase).map Prod.snd

theorem perm_values_of_find? (h : t.find? key = some value) :
    t.values.Perm (value :: (t.erase key).values) := by
  have hPerm := perm_values_insert t key value
  rwa [← insert_erase, insert_erase_of_find? h] at hPerm

theorem perm_values_insert_of_none (h : t.find? key = none) :
    (t.insert key value).values.Perm (value :: t.values) := by
  have hPerm := perm_values_insert t key value
  rwa [erase_of_find?_eq_none h] at hPerm

omit [DecidableEq κ] in
theorem mem_values_of_find? (h : t.find? key = some value) : value ∈ t.values :=
  mem_values_iff.mpr ⟨key, h⟩

omit [DecidableEq κ] in
/-- Where all values are changed or dropped in their places, so are they in the list. -/
theorem values_eq_filterMap {u : Table κ υ} {f : υ → Option υ}
    (h : ∀ key, u.find? key = (t.find? key).bind f) : u.values = t.values.filterMap f := by
  let g : κ × υ → Option (κ × υ) := fun entry => (f entry.2).map (entry.1, ·)
  have hEntries : u.entries = t.entries.filterMap g := by
    refine eq_of_mem_iff u.sorted ?_ fun entry => ?_
    · refine List.pairwise_filterMap.mpr (t.sorted.imp ?_)
      intro a b hBefore a' ha b' hb
      obtain ⟨_, -, rfl⟩ := Option.map_eq_some_iff.mp ha
      obtain ⟨_, -, rfl⟩ := Option.map_eq_some_iff.mp hb
      exact hBefore
    · obtain ⟨key, value⟩ := entry
      rw [mem_entries_iff, h, Option.bind_eq_some_iff, List.mem_filterMap]
      constructor
      · rintro ⟨old, hOld, hLeft⟩
        refine ⟨(key, old), mem_entries_iff.mpr hOld, ?_⟩
        show (f old).map (key, ·) = _
        rw [hLeft]
        rfl
      · rintro ⟨⟨key', old⟩, hOld, hLeft⟩
        obtain ⟨value', hLeft, hSame⟩ := Option.map_eq_some_iff.mp hLeft
        cases hSame
        exact ⟨old, mem_entries_iff.mp hOld, hLeft⟩
  rw [values, hEntries, values, List.map_filterMap, List.filterMap_map]
  refine congrArg (List.filterMap · t.entries) (funext fun entry => ?_)
  rw [Option.map_map]
  exact Option.map_id'
theorem mem_values_of_insert {other : υ} (h : other ∈ (t.insert key value).values) :
    other = value ∨ other ∈ t.values := by
  obtain ⟨k, hFound⟩ := mem_values_iff.mp h
  rw [find?_insert] at hFound
  by_cases hKey : k = key
  · rw [if_pos hKey] at hFound
    exact Or.inl (Option.some.inj hFound).symm
  · rw [if_neg hKey] at hFound
    exact Or.inr (mem_values_of_find? hFound)

theorem mem_values_of_erase (h : value ∈ (t.erase key).values) : value ∈ t.values := by
  obtain ⟨k, hFound⟩ := mem_values_iff.mp h
  rw [find?_erase] at hFound
  by_cases hKey : k = key
  · rw [if_pos hKey] at hFound
    cases hFound
  · rw [if_neg hKey] at hFound
    exact mem_values_of_find? hFound

/-! ## Values that name their keys -/

/-- Each value stands under the key that it names. -/
def KeyedBy (t : Table κ υ) (name : υ → κ) : Prop :=
  ∀ key value, t.find? key = some value → name value = key

section

variable {name : υ → κ}

omit [DecidableEq κ] in
theorem keyedBy_empty (name : υ → κ) : (empty : Table κ υ).KeyedBy name := by
  intro key value h
  cases h

omit [DecidableEq κ] in
theorem KeyedBy.mem_values_iff (h : t.KeyedBy name) :
    value ∈ t.values ↔ t.find? (name value) = some value := by
  rw [Table.mem_values_iff]
  constructor
  · rintro ⟨key, hFound⟩
    rwa [h key value hFound]
  · exact fun hFound => ⟨_, hFound⟩

theorem KeyedBy.insert (h : t.KeyedBy name) (value : υ) :
    (t.insert (name value) value).KeyedBy name := by
  intro key other hFound
  rw [find?_insert] at hFound
  by_cases hKey : key = name value
  · rw [if_pos hKey] at hFound
    rw [hKey, Option.some.inj hFound]
  · rw [if_neg hKey] at hFound
    exact h key other hFound

theorem KeyedBy.erase (h : t.KeyedBy name) (key : κ) : (t.erase key).KeyedBy name := by
  intro other value hFound
  rw [find?_erase] at hFound
  by_cases hKey : other = key
  · rw [if_pos hKey] at hFound
    cases hFound
  · rw [if_neg hKey] at hFound
    exact h other value hFound

omit [DecidableEq κ] in
theorem KeyedBy.filter (h : t.KeyedBy name) (keep : κ → υ → Bool) :
    (t.filter keep).KeyedBy name := by
  intro key value hFound
  rw [find?_filter, Option.filter_eq_some_iff] at hFound
  exact h key value hFound.1

omit [DecidableEq κ] in
theorem KeyedBy.mem_values_filter (h : t.KeyedBy name) {keep : κ → υ → Bool} :
    value ∈ (t.filter keep).values ↔ value ∈ t.values ∧ keep (name value) value = true := by
  rw [(h.filter keep).mem_values_iff, h.mem_values_iff, find?_filter, Option.filter_eq_some_iff]

theorem KeyedBy.foldl_insert (h : t.KeyedBy name) (l : List υ) :
    (l.foldl (fun t value => t.insert (name value) value) t).KeyedBy name := by
  induction l generalizing t with
  | nil => exact h
  | cons first rest ih => exact ih (h.insert first)

theorem KeyedBy.foldl_erase (h : t.KeyedBy name) (l : List υ) :
    (l.foldl (fun t value => t.erase (name value)) t).KeyedBy name := by
  induction l generalizing t with
  | nil => exact h
  | cons first rest ih => exact ih (h.erase (name first))

omit [DecidableEq κ] in
theorem KeyedBy.nodup (h : t.KeyedBy name) : (t.values.map name).Nodup := by
  have hNames : t.values.map name = t.entries.map Prod.fst := by
    rw [values, List.map_map]
    exact List.map_congr_left fun entry hEntry => h _ _ (mem_entries_iff.mp hEntry)
  rw [hNames, List.nodup_iff_pairwise_ne, List.pairwise_map]
  exact t.sorted.imp before_ne

omit [DecidableEq κ] in
theorem KeyedBy.pairwise_values (h : t.KeyedBy name) :
    t.values.Pairwise fun a b => Before (name a) (name b) := by
  rw [values, List.pairwise_map]
  refine t.sorted.imp_of_mem fun {a b} ha hb hBefore => ?_
  rwa [h _ _ (mem_entries_iff.mp ha), h _ _ (mem_entries_iff.mp hb)]

/-! ## Many values -/

theorem perm_values_foldl_insert {l : List υ} (hNodup : (l.map name).Nodup)
    (hNew : ∀ value ∈ l, t.find? (name value) = none) :
    (l.foldl (fun t value => t.insert (name value) value) t).values.Perm (l ++ t.values) := by
  induction l generalizing t with
  | nil => exact .refl _
  | cons first rest ih =>
    obtain ⟨hFirst, hRest⟩ := List.nodup_cons.mp hNodup
    have hNewFirst := hNew first List.mem_cons_self
    have hNewRest : ∀ value ∈ rest, (t.insert (name first) first).find? (name value) = none := by
      intro value hValue
      have hNe : name value ≠ name first := fun hEq => hFirst (hEq ▸ List.mem_map_of_mem hValue)
      rw [find?_insert, if_neg hNe]
      exact hNew value (List.mem_cons_of_mem _ hValue)
    refine (ih hRest hNewRest).trans ?_
    exact ((perm_values_insert_of_none hNewFirst).append_left rest).trans List.perm_middle

theorem perm_values_build {l : List υ} (hNodup : (l.map name).Nodup) :
    (l.foldl (fun t value => t.insert (name value) value) empty).values.Perm l := by
  have hPerm := perm_values_foldl_insert (t := empty) hNodup fun _ _ => find?_empty _
  have hNone : (empty : Table κ υ).values = [] := rfl
  rwa [hNone, List.append_nil] at hPerm

theorem perm_values_foldl_erase {l : List υ} (hNodup : (l.map name).Nodup)
    (hFound : ∀ value ∈ l, t.find? (name value) = some value) :
    t.values.Perm (l ++ (l.foldl (fun t value => t.erase (name value)) t).values) := by
  induction l generalizing t with
  | nil => exact .refl _
  | cons first rest ih =>
    obtain ⟨hFirst, hRest⟩ := List.nodup_cons.mp hNodup
    have hFoundRest : ∀ value ∈ rest, (t.erase (name first)).find? (name value) = some value := by
      intro value hValue
      have hNe : name value ≠ name first := fun hEq => hFirst (hEq ▸ List.mem_map_of_mem hValue)
      rw [find?_erase, if_neg hNe]
      exact hFound value (List.mem_cons_of_mem _ hValue)
    exact (perm_values_of_find? (hFound first List.mem_cons_self)).trans
      ((ih hRest hFoundRest).cons first)

theorem foldl_erase_eq_filter (l : List υ) (t : Table κ υ) :
    l.foldl (fun t value => t.erase (name value)) t =
      t.filter fun key _ => decide (key ∉ l.map name) := by
  apply ext_find?
  intro key
  rw [find?_filter]
  induction l generalizing t with
  | nil =>
    cases hFound : t.find? key with
    | none => simp [hFound]
    | some value => simp [hFound, Option.filter_some]
  | cons first rest ih =>
    rw [List.foldl_cons, ih, find?_erase]
    by_cases hFirst : key = name first
    · cases hFound : t.find? (name first) with
      | none => simp [hFirst, hFound]
      | some value => simp [hFirst, hFound, Option.filter_some]
    · simp [hFirst]

/-! ## Building a table again -/

section

variable {α : Type} {name : α → κ} {content : α → υ} {l : List α}

/-- Entries of a table, put into another one, hide what was there. -/
theorem find?_foldl_insert (h : ∀ a ∈ l, t.find? (name a) = some (content a)) (u : Table κ υ)
    (key : κ) :
    (l.foldl (fun u a => u.insert (name a) (content a)) u).find? key =
      if key ∈ l.map name then t.find? key else u.find? key := by
  induction l generalizing u with
  | nil => exact (if_neg List.not_mem_nil).symm
  | cons first rest ih =>
    rw [List.foldl_cons, ih fun a hMem => h a (List.mem_cons_of_mem _ hMem), find?_insert]
    by_cases hRest : key ∈ rest.map name
    · have hMem : key ∈ (first :: rest).map name := List.mem_cons_of_mem _ hRest
      rw [if_pos hRest, if_pos hMem]
    · by_cases hFirst : key = name first
      · have hMem : key ∈ (first :: rest).map name := hFirst ▸ List.mem_cons_self
        rw [if_neg hRest, if_pos hFirst, if_pos hMem, hFirst, h first List.mem_cons_self]
      · have hNot : key ∉ (first :: rest).map name := fun hMem =>
          (List.mem_cons.mp hMem).elim hFirst hRest
        rw [if_neg hRest, if_neg hFirst, if_neg hNot]

/-- A table is built again from entries of it that leave no key out. -/
theorem foldl_insert_eq (h : ∀ a ∈ l, t.find? (name a) = some (content a))
    (hAll : ∀ key value, t.find? key = some value → key ∈ l.map name) :
    l.foldl (fun u a => u.insert (name a) (content a)) empty = t := by
  apply ext_find?
  intro key
  rw [find?_foldl_insert h]
  by_cases hKey : key ∈ l.map name
  · rw [if_pos hKey]
  · rw [if_neg hKey, find?_empty]
    cases hFound : t.find? key with
    | none => rfl
    | some value => exact absurd (hAll key value hFound) hKey

theorem foldl_insert_entries (t : Table κ υ) :
    t.entries.foldl (fun u entry => u.insert entry.1 entry.2) empty = t :=
  foldl_insert_eq (fun _ hMem => mem_entries_iff.mp hMem) fun _ _ hFound =>
    List.mem_map_of_mem (f := Prod.fst) (mem_entries_iff.mpr hFound)

end

theorem KeyedBy.foldl_insert_eq (h : t.KeyedBy name) {l : List υ}
    (hValues : ∀ value, value ∈ l ↔ value ∈ t.values) :
    l.foldl (fun u value => u.insert (name value) value) empty = t := by
  refine Table.foldl_insert_eq (fun value hMem => ?_) fun key value hFound => ?_
  · exact h.mem_values_iff.mp ((hValues value).mp hMem)
  · rw [← h key value hFound]
    exact List.mem_map_of_mem ((hValues value).mpr (mem_values_of_find? hFound))

end

/-! ## Values that refer to another table -/

/-- Each value stands under the key that it names, and its subject is a key of another table. -/
structure Refers {κ' υ' : Type} [Ranked κ'] (t : Table κ υ) (name : υ → κ) (subject : υ → κ')
    (u : Table κ' υ') : Prop where
  keyed : t.KeyedBy name
  found : ∀ value ∈ t.values, ∃ other, u.find? (subject value) = some other

section

variable {κ' υ' : Type} [Ranked κ'] {name : υ → κ} {subject : υ → κ'} {u u' : Table κ' υ'}

omit [DecidableEq κ] in
theorem refers_empty (name : υ → κ) (subject : υ → κ') (u : Table κ' υ') :
    (empty : Table κ υ).Refers name subject u :=
  ⟨keyedBy_empty name, fun _ h => absurd h List.not_mem_nil⟩

theorem Refers.insert (h : t.Refers name subject u) {value : υ}
    (hFound : ∃ other, u.find? (subject value) = some other) :
    (t.insert (name value) value).Refers name subject u := by
  refine ⟨h.keyed.insert value, fun v hMem => ?_⟩
  rcases mem_values_of_insert hMem with rfl | hOld
  · exact hFound
  · exact h.found v hOld

omit [DecidableEq κ] in
theorem Refers.insert_subject [DecidableEq κ'] (h : t.Refers name subject u) (key' : κ')
    (other : υ') : t.Refers name subject (u.insert key' other) := by
  refine ⟨h.keyed, fun value hMem => ?_⟩
  rw [find?_insert]
  by_cases hKey : subject value = key'
  · exact ⟨other, if_pos hKey⟩
  · rw [if_neg hKey]
    exact h.found value hMem

omit [DecidableEq κ] in
/-- A key may go from the other table together with all that refers to it. -/
theorem Refers.erase_subject [DecidableEq κ'] (h : t.Refers name subject u) {key' : κ'}
    (keep : κ → υ → Bool)
    (hKeep : ∀ value, keep (name value) value = true → subject value ≠ key') :
    (t.filter keep).Refers name subject (u.erase key') := by
  refine ⟨h.keyed.filter keep, fun value hMem => ?_⟩
  obtain ⟨hOld, hKept⟩ := h.keyed.mem_values_filter.mp hMem
  rw [find?_erase, if_neg (hKeep value hKept)]
  exact h.found value hOld

omit [DecidableEq κ] in
theorem Refers.mem_flatMap [DecidableEq κ'] {name' : υ' → κ'} (h : t.Refers name subject u)
    (hOther : u.KeyedBy name') (keep : υ' → κ → υ → Bool)
    (hKeep : ∀ other value, keep other (name value) value = true ↔ subject value = name' other) :
    value ∈ u.values.flatMap (fun other => (t.filter (keep other)).values) ↔
      value ∈ t.values := by
  simp only [List.mem_flatMap, h.keyed.mem_values_filter, hKeep]
  constructor
  · rintro ⟨_, -, hMem, -⟩
    exact hMem
  · intro hMem
    obtain ⟨other, hFound⟩ := h.found value hMem
    exact ⟨other, mem_values_of_find? hFound, hMem, (hOther _ _ hFound).symm⟩

end

end TokenBridge.Table

import Mathlib.Data.List.Nodup
import Mathlib.Data.List.Perm.Subperm
import TokenBridge.Proofs.Table.Values

/-!
# Tables put together

A table that is built from a list has all of it just when no two of its records go under one key. A
table is also put together from its entries under each name that a key can have.

* `subperm_entries_build`, `perm_entries_build_iff`: the entries of a table that is built from a
  list, with `perm_records_build_iff` and `perm_values_build_iff` for lists of records;
* `Refers.perm_flatMap`: values listed under what they refer to;
* `filter_insert_of_keep`, `eq_of_filter`: the entries under a name.
-/

namespace TokenBridge.Table

open scoped List

variable {κ υ : Type} [Ranked κ] [DecidableEq κ] {t : Table κ υ} {key : κ} {value : υ}

/-! ## Tables from lists -/

omit [DecidableEq κ] in
theorem nodup_keys (t : Table κ υ) : (t.entries.map Prod.fst).Nodup := by
  rw [List.nodup_iff_pairwise_ne, List.pairwise_map]
  exact t.sorted.imp before_ne

omit [DecidableEq κ] in
theorem perm_entries_insert_of_none (h : t.find? key = none) (value : υ) :
    (t.insert key value).entries ~ (key, value) :: t.entries := by
  refine perm_place fun entry hMem => ?_
  rintro rfl
  have hFound : t.find? entry.1 = some entry.2 := mem_entries_iff.mp hMem
  rw [h] at hFound
  cases hFound

section

variable {α : Type} {name : α → κ} {content : α → υ} {l : List α}

omit [DecidableEq κ] in
theorem mem_entries_foldl_insert {entry : κ × υ}
    (h : entry ∈ (l.foldl (fun t a => t.insert (name a) (content a)) t).entries) :
    entry ∈ l.map (fun a => (name a, content a)) ∨ entry ∈ t.entries := by
  induction l generalizing t with
  | nil => exact Or.inr h
  | cons first rest ih =>
    rw [List.map_cons, List.mem_cons]
    rcases ih h with hRest | hFirst
    · exact Or.inl (Or.inr hRest)
    · exact (mem_place hFirst).imp_left Or.inl

omit [DecidableEq κ] in
/-- A table that is built from a list has no entry that is not from the list. -/
theorem subperm_entries_build (name : α → κ) (content : α → υ) (l : List α) :
    (l.foldl (fun t a => t.insert (name a) (content a)) empty).entries <+~
      l.map fun a => (name a, content a) := by
  refine List.subperm_of_subset (List.Nodup.of_map _ (nodup_keys _)) fun entry hMem => ?_
  exact (mem_entries_foldl_insert hMem).resolve_right List.not_mem_nil

theorem perm_entries_foldl_insert (content : α → υ) (hNodup : (l.map name).Nodup)
    (hNew : ∀ a ∈ l, t.find? (name a) = none) :
    (l.foldl (fun t a => t.insert (name a) (content a)) t).entries ~
      l.map (fun a => (name a, content a)) ++ t.entries := by
  induction l generalizing t with
  | nil => exact .refl _
  | cons first rest ih =>
    obtain ⟨hFirst, hRest⟩ := List.nodup_cons.mp hNodup
    have hNewRest : ∀ a ∈ rest, (t.insert (name first) (content first)).find? (name a) = none := by
      intro a hMem
      have hNe : name a ≠ name first := fun hEq => hFirst (hEq ▸ List.mem_map_of_mem hMem)
      rw [find?_insert, if_neg hNe]
      exact hNew a (List.mem_cons_of_mem _ hMem)
    refine (ih hRest hNewRest).trans ?_
    have hInsert := perm_entries_insert_of_none (hNew first List.mem_cons_self) (content first)
    exact (hInsert.append_left _).trans List.perm_middle

/-- A table that is built from a list has all of it just when no name is used twice. -/
theorem perm_entries_build_iff (name : α → κ) (content : α → υ) (l : List α) :
    (l.foldl (fun t a => t.insert (name a) (content a)) empty).entries ~
      l.map (fun a => (name a, content a)) ↔ (l.map name).Nodup := by
  constructor
  · intro h
    have hKeys := (h.map Prod.fst).nodup_iff.mp (nodup_keys _)
    rwa [List.map_map] at hKeys
  · intro h
    have hPerm := perm_entries_foldl_insert content h fun a _ => find?_empty (name a)
    rwa [show (empty : Table κ υ).entries = [] from rfl, List.append_nil] at hPerm

omit [DecidableEq κ] in
theorem subperm_records_build {record : κ × υ → α} (h : ∀ a, record (name a, content a) = a) :
    (l.foldl (fun t a => t.insert (name a) (content a)) empty).entries.map record <+~ l := by
  have hRecords : (l.map fun a => (name a, content a)).map record = l := by
    simp [Function.comp_def, h]
  obtain ⟨kept, hPerm, hSub⟩ := subperm_entries_build name content l
  exact ⟨kept.map record, hPerm.map record, hRecords ▸ hSub.map record⟩

theorem perm_records_build_iff {record : κ × υ → α} (h : ∀ a, record (name a, content a) = a)
    (hName : ∀ entry, name (record entry) = entry.1) :
    (l.foldl (fun t a => t.insert (name a) (content a)) empty).entries.map record ~ l ↔
      (l.map name).Nodup := by
  have hRecords : (l.map fun a => (name a, content a)).map record = l := by
    simp [Function.comp_def, h]
  have hNames (entries : List (κ × υ)) : (entries.map record).map name = entries.map Prod.fst := by
    simp [hName]
  constructor
  · intro hPerm
    have hKeys := (hPerm.map name).nodup_iff
    rw [hNames] at hKeys
    exact hKeys.mp (nodup_keys _)
  · intro hNodup
    have hPerm := ((perm_entries_build_iff name content l).mpr hNodup).map record
    rwa [hRecords] at hPerm

end

section

variable {name : υ → κ} {l : List υ}

omit [DecidableEq κ] in
theorem subperm_values_build :
    (l.foldl (fun t v => t.insert (name v) v) empty).values <+~ l :=
  subperm_records_build fun _ => rfl

theorem perm_values_build_iff :
    (l.foldl (fun t v => t.insert (name v) v) empty).values ~ l ↔ (l.map name).Nodup := by
  refine ⟨fun h => (h.map name).nodup_iff.mp ?_, perm_values_build⟩
  exact ((keyedBy_empty name).foldl_insert l).nodup

end

/-! ## Values that refer to another table -/

omit [DecidableEq κ] in
/-- Listed under what they refer to, all values are listed once. -/
theorem Refers.perm_flatMap {κ' υ' : Type} [Ranked κ'] [DecidableEq κ'] {name : υ → κ}
    {subject : υ → κ'} {u : Table κ' υ'} {name' : υ' → κ'} (h : t.Refers name subject u)
    (hOther : u.KeyedBy name') (keep : υ' → κ → υ → Bool)
    (hKeep : ∀ other value, keep other (name value) value = true ↔ subject value = name' other) :
    u.values.flatMap (fun other => (t.filter (keep other)).values) ~ t.values := by
  have hApart : u.values.Pairwise fun a b => name' a ≠ name' b := by
    rw [← List.pairwise_map, ← List.nodup_iff_pairwise_ne]
    exact hOther.nodup
  have hOnce : (u.values.flatMap fun other => (t.filter (keep other)).values).Nodup := by
    refine List.nodup_flatMap.mpr ⟨fun other _ => (h.keyed.filter _).nodup.of_map, ?_⟩
    refine hApart.imp fun {a b} hNe value hLeft hRight => hNe ?_
    have hA := (hKeep a value).mp (h.keyed.mem_values_filter.mp hLeft).2
    have hB := (hKeep b value).mp (h.keyed.mem_values_filter.mp hRight).2
    exact hA.symm.trans hB
  refine (List.perm_ext_iff_of_nodup hOnce h.keyed.nodup.of_map).mpr fun value => ?_
  exact h.mem_flatMap hOther keep hKeep

/-! ## Entries under a name -/

omit [DecidableEq κ] in
theorem find?_filter_keys (t : Table κ υ) (keep : κ → Bool) (key : κ) :
    (t.filter fun k _ => keep k).find? key = if keep key then t.find? key else none := by
  rw [find?_filter]
  cases t.find? key with
  | none => simp
  | some value => cases keep key <;> simp [Option.filter]

theorem filter_insert_of_keep (keep : κ → Bool) (h : keep key = true) (t : Table κ υ)
    (value : υ) :
    (t.insert key value).filter (fun k _ => keep k) =
      (t.filter fun k _ => keep k).insert key value := by
  apply ext_find?
  intro other
  rw [find?_filter_keys, find?_insert, find?_insert, find?_filter_keys]
  by_cases hKey : other = key
  · simp [hKey, h]
  · simp [hKey]

theorem filter_insert_of_not_keep (keep : κ → Bool) (h : keep key = false) (t : Table κ υ)
    (value : υ) :
    (t.insert key value).filter (fun k _ => keep k) = t.filter fun k _ => keep k := by
  apply ext_find?
  intro other
  rw [find?_filter_keys, find?_insert, find?_filter_keys]
  by_cases hKey : other = key
  · simp [hKey, h]
  · simp [hKey]

omit [DecidableEq κ] in
/-- A table is determined by its entries under each name that a key can have. -/
theorem eq_of_filter {ι : Type} [DecidableEq ι] {t u : Table κ υ} (name : κ → ι)
    (h : ∀ i, t.filter (fun k _ => name k == i) = u.filter fun k _ => name k == i) : t = u := by
  apply ext_find?
  intro key
  have hFind := congrArg (fun t => t.find? key) (h (name key))
  simpa only [find?_filter_keys _ fun k => name k == name key, beq_self_eq_true, if_true]
    using hFind

end TokenBridge.Table

import TokenBridge.Table.Rank

/-!
# Tables

Finite maps as lists of entries in strictly increasing order of their keys. The order is part of
the type, so two tables with the same look-ups are equal, and listing a table is always sorted.
-/

namespace TokenBridge

/-- A finite map from `κ` to `υ`. -/
structure Table (κ υ : Type) [Ranked κ] where
  entries : List (κ × υ)
  sorted : entries.Pairwise fun a b => Before a.1 b.1

namespace Table

variable {κ υ : Type} [Ranked κ]

def empty : Table κ υ :=
  ⟨[], .nil⟩

instance : Inhabited (Table κ υ) :=
  ⟨empty⟩

/-! ## Entry lists -/

/-- Puts a value into a sorted list, in place of any value under the same key. -/
def place (key : κ) (value : υ) : List (κ × υ) → List (κ × υ)
  | [] => [(key, value)]
  | entry :: rest =>
    if Before key entry.1 then (key, value) :: entry :: rest
    else if Before entry.1 key then entry :: place key value rest
    else (key, value) :: rest

theorem mem_place {key : κ} {value : υ} {l : List (κ × υ)} {entry : κ × υ}
    (h : entry ∈ place key value l) : entry = (key, value) ∨ entry ∈ l := by
  induction l with
  | nil => simpa [place] using h
  | cons first rest ih =>
    rw [place] at h
    split at h
    · simpa using h
    · split at h
      · rcases List.mem_cons.mp h with h | h
        · exact Or.inr (h ▸ List.mem_cons_self)
        · exact (ih h).imp id (List.mem_cons_of_mem _)
      · exact (List.mem_cons.mp h).imp id (List.mem_cons_of_mem _)

theorem sorted_place (key : κ) (value : υ) {l : List (κ × υ)}
    (h : l.Pairwise fun a b => Before a.1 b.1) :
    (place key value l).Pairwise fun a b => Before a.1 b.1 := by
  induction l with
  | nil => simp [place]
  | cons first rest ih =>
    obtain ⟨hFirst, hRest⟩ := List.pairwise_cons.mp h
    rw [place]
    split
    · rename_i hBefore
      refine List.pairwise_cons.mpr ⟨fun entry he => ?_, h⟩
      rcases List.mem_cons.mp he with rfl | he
      · exact hBefore
      · exact before_trans hBefore (hFirst entry he)
    · rename_i hNot
      split
      · rename_i hAfter
        refine List.pairwise_cons.mpr ⟨fun entry he => ?_, ih hRest⟩
        rcases mem_place he with rfl | he
        · exact hAfter
        · exact hFirst entry he
      · rename_i hNot'
        have hEq : first.1 = key :=
          (eq_or_before_of_not_before hNot).resolve_right hNot'
        exact List.pairwise_cons.mpr ⟨fun entry he => hEq ▸ hFirst entry he, hRest⟩

/-! ## Operations -/

def find? (t : Table κ υ) (key : κ) : Option υ :=
  (t.entries.find? fun entry => rank entry.1 == rank key).map Prod.snd

/-- Puts a value under a key, in place of any other. -/
def insert (t : Table κ υ) (key : κ) (value : υ) : Table κ υ :=
  ⟨place key value t.entries, sorted_place key value t.sorted⟩

def filter (t : Table κ υ) (keep : κ → υ → Bool) : Table κ υ :=
  ⟨t.entries.filter fun entry => keep entry.1 entry.2, t.sorted.filter _⟩

def erase (t : Table κ υ) (key : κ) : Table κ υ :=
  t.filter fun k _ => rank k != rank key

/-- The values in order of their keys. -/
def values (t : Table κ υ) : List υ :=
  t.entries.map Prod.snd

def contains (t : Table κ υ) (key : κ) : Bool :=
  (t.find? key).isSome

end Table

end TokenBridge

/-!
# Ranks

A type whose values are told apart by a list of numbers is ordered by those lists, read like words
in a dictionary. Every order that an answer shows is of this kind.
-/

namespace TokenBridge

/-- A type ordered by lists of numbers. -/
class Ranked (α : Type) where
  rank : α → List Nat
  rank_injective : ∀ {a b : α}, rank a = rank b → a = b

export Ranked (rank)

/-- Whether `a` comes strictly before `b`. -/
abbrev Before {α : Type} [Ranked α] (a b : α) : Prop :=
  rank a < rank b

section

variable {α : Type} [Ranked α] {a b c : α}

theorem before_irrefl (a : α) : ¬Before a a :=
  List.lt_irrefl _

theorem before_trans (h₁ : Before a b) (h₂ : Before b c) : Before a c :=
  List.lt_trans h₁ h₂

theorem before_ne (h : Before a b) : a ≠ b := by
  rintro rfl
  exact before_irrefl a h

theorem eq_or_before_of_not_before (h : ¬Before a b) : b = a ∨ Before b a := by
  by_cases hb : Before b a
  · exact Or.inr hb
  · exact Or.inl (Ranked.rank_injective (List.le_antisymm (List.not_lt.mp h) (List.not_lt.mp hb)))

end

/-- Ranks of one length, so that other ranks can follow. -/
class EvenRank (α : Type) [Ranked α] : Prop where
  length_rank : ∀ a b : α, (rank a).length = (rank b).length

/-! ## Instances -/

instance : Ranked UInt64 where
  rank n := [n.toNat]
  rank_injective h := UInt64.toNat_inj.mp (List.cons.inj h).1

instance : Ranked String where
  rank s := s.toList.map Char.toNat
  rank_injective h :=
    String.toList_inj.mp ((List.map_inj_right fun _ _ hc => Char.toNat_inj.mp hc).mp h)

instance {α β : Type} [Ranked α] [EvenRank α] [Ranked β] : Ranked (α × β) where
  rank p := rank p.1 ++ rank p.2
  rank_injective {a b} h := by
    obtain ⟨h₁, h₂⟩ := List.append_inj h (EvenRank.length_rank a.1 b.1)
    exact Prod.ext (Ranked.rank_injective h₁) (Ranked.rank_injective h₂)

end TokenBridge

import TokenBridge.Proofs.Bridge.Writes

/-!
# The canonical form of signer sets

* `distinct_eq_ok`: what a walk over a list without repeated keys accepts;
* `Member.le_total`, `Member.le_trans`: the canonical order of members is a total order;
* `Valset.make_eq_ok`: the lists that a signer set is made of, and its members;
* `Valset.validate_of_make`: what was made is valid;
* `Store.Canonical`: the invariant. Stored signer sets stand under their nonces and are valid.
-/

namespace TokenBridge

/-- A walk accepts a list of elements that pass their check and have new and different keys. -/
theorem distinct_eq_ok {α κ ε : Type} [DecidableEq κ] {key : α → κ} {check : α → Except ε Unit}
    {clash : α → ε} {seen keys : List κ} {l : List α} :
    distinct key check clash seen l = .ok keys ↔
      (∀ a ∈ l, check a = .ok ()) ∧ (l.map key).Nodup ∧ (∀ a ∈ l, key a ∉ seen) ∧
        keys = (l.map key).reverse ++ seen := by
  induction l generalizing seen with
  | nil =>
    rw [distinct, Except.ok.injEq]
    simp [eq_comm]
  | cons first rest ih =>
    rw [distinct, Bridge.checked_bind_eq_ok]
    by_cases hSeen : key first ∈ seen
    · simp only [if_pos hSeen]
      constructor
      · rintro ⟨_, -, h⟩
        cases h
      · rintro ⟨-, -, hNew, -⟩
        exact absurd hSeen (hNew first List.mem_cons_self)
    · simp only [if_neg hSeen]
      constructor
      · rintro ⟨_, hFirst, h⟩
        obtain ⟨hChecks, hNodup, hNew, rfl⟩ := ih.mp h
        refine ⟨List.forall_mem_cons.mpr ⟨hFirst, hChecks⟩, ?_,
          List.forall_mem_cons.mpr ⟨hSeen, fun a hMem hOld =>
            hNew a hMem (List.mem_cons_of_mem _ hOld)⟩, ?_⟩
        · refine List.nodup_cons.mpr ⟨fun hMem => ?_, hNodup⟩
          obtain ⟨a, hRest, hKey⟩ := List.mem_map.mp hMem
          exact hNew a hRest (hKey ▸ List.mem_cons_self)
        · rw [List.map_cons, List.reverse_cons, List.append_assoc, List.singleton_append]
      · rintro ⟨hChecks, hNodup, hNew, rfl⟩
        obtain ⟨hFirst, hRest⟩ := List.forall_mem_cons.mp hChecks
        obtain ⟨hApart, hNodup⟩ := List.nodup_cons.mp hNodup
        refine ⟨(), hFirst, ih.mpr ⟨hRest, hNodup, fun a hMem hOld => ?_, ?_⟩⟩
        · rcases List.mem_cons.mp hOld with hKey | hOld
          · exact hApart (hKey ▸ List.mem_map_of_mem hMem)
          · exact hNew a (List.mem_cons_of_mem _ hMem) hOld
        · rw [List.map_cons, List.reverse_cons, List.append_assoc, List.singleton_append]

/-! ## The order of members -/

namespace Member

theorem le_iff {a b : Member} :
    a.le b = true ↔ b.power.toNat < a.power.toNat ∨
      a.power.toNat = b.power.toNat ∧ a.address.word.toNat ≤ b.address.word.toNat := by
  rw [le, Bool.or_eq_true, Bool.and_eq_true, decide_eq_true_iff, beq_iff_eq, Address.le,
    decide_eq_true_iff, ← UInt64.toNat_inj]

theorem le_total (a b : Member) : (a.le b || b.le a) = true := by
  rw [Bool.or_eq_true, le_iff, le_iff]
  omega

theorem le_trans (a b c : Member) (hab : a.le b = true) (hbc : b.le c = true) :
    a.le c = true := by
  rw [le_iff] at *
  omega

end Member

/-! ## Making and validating -/

namespace Valset

variable {nonce : Nonce} {members : List Member} {v : Valset}

/-- A signer set is made of some valid members with different keys, in canonical order. -/
theorem make_eq_ok :
    make nonce members = .ok v ↔
      members ≠ [] ∧ (∀ m ∈ members, m.validate = .ok ()) ∧
        (members.map Member.address).Nodup ∧ v = ⟨nonce, members.mergeSort Member.le⟩ := by
  rw [make]
  by_cases hNone : members = []
  · rw [if_pos hNone]
    constructor
    · intro h
      cases h
    · exact fun h => absurd hNone h.1
  · rw [if_neg hNone]
    show (distinct Member.address Member.validate (fun m => .repeatedMember m.address) [] members >>=
      fun _ => Except.ok (⟨nonce, members.mergeSort Member.le⟩ : Valset)) = .ok v ↔ _
    rw [Bridge.checked_bind_eq_ok]
    constructor
    · rintro ⟨_, hWalk, h⟩
      obtain ⟨hValid, hNodup, -, -⟩ := distinct_eq_ok.mp hWalk
      exact ⟨hNone, hValid, hNodup, (Except.ok.inj h).symm⟩
    · rintro ⟨-, hValid, hNodup, rfl⟩
      exact ⟨_, distinct_eq_ok.mpr ⟨hValid, hNodup, fun _ _ => List.not_mem_nil, rfl⟩, rfl⟩

theorem validate_eq_ok : v.validate = .ok () ↔ make v.nonce v.members = .ok v := by
  rw [validate, Bridge.checked_bind_eq_ok]
  constructor
  · rintro ⟨made, hMake, h⟩
    by_cases hOrder : made.members ≠ v.members
    · rw [if_pos hOrder] at h
      cases h
    · obtain ⟨-, -, -, rfl⟩ := make_eq_ok.mp hMake
      have hMembers : v.members.mergeSort Member.le = v.members := Decidable.not_not.mp hOrder
      rw [hMake, hMembers]
  · intro hMake
    exact ⟨v, hMake, if_neg fun hOther => hOther rfl⟩

theorem validate_of_make (h : make nonce members = .ok v) : v.validate = .ok () := by
  obtain ⟨hSome, hValid, hNodup, rfl⟩ := make_eq_ok.mp h
  have hPerm : (members.mergeSort Member.le).Perm members := List.mergeSort_perm _ _
  refine validate_eq_ok.mpr (make_eq_ok.mpr ⟨fun hNil => hSome ?_, fun m hMem => ?_, ?_, ?_⟩)
  · exact List.perm_nil.mp (hNil ▸ hPerm.symm)
  · exact hValid m (hPerm.subset hMem)
  · exact (hPerm.map _).nodup_iff.mpr hNodup
  · rw [List.mergeSort_of_pairwise (List.pairwise_mergeSort Member.le_trans Member.le_total _)]

end Valset

/-! ## Stored signer sets -/

namespace Store

variable {s s' : Store} {nonce : Nonce} {v : Valset}

/-- Stored signer sets stand under their nonces and are valid. -/
structure Canonical (s : Store) : Prop where
  keyed : s.valsets.KeyedBy Valset.nonce
  valid : ∀ v ∈ s.valsets.values, v.validate = .ok ()

theorem canonical_empty : empty.Canonical where
  keyed := Table.keyedBy_empty _
  valid _ h := absurd h List.not_mem_nil

theorem Canonical.congr (h : s.Canonical) (hValsets : s'.valsets = s.valsets) : s'.Canonical where
  keyed := hValsets ▸ h.keyed
  valid := hValsets ▸ h.valid

theorem Canonical.putValset (h : s.Canonical) (hValid : v.validate = .ok ()) :
    (s.putValset v).Canonical where
  keyed := h.keyed.insert v
  valid w hMem := by
    rcases Table.mem_values_of_insert hMem with rfl | hOld
    · exact hValid
    · exact h.valid w hOld

theorem Canonical.dropValset (h : s.Canonical) (nonce : Nonce) :
    (s.dropValset nonce).Canonical where
  keyed := h.keyed.erase nonce
  valid v hMem := h.valid v (Table.mem_values_of_erase hMem)

theorem Canonical.executeValset (h : s.Canonical) (nonce : Nonce) :
    (s.executeValset nonce).Canonical :=
  executeValset_induction (P := Canonical) (fun _ _ h => h.congr rfl)
    (fun _ older h => h.dropValset older) h nonce

end Store

theorem Bridge.canonical_step {b b' : Bridge} {event : Event} (h : b.store.Canonical)
    (hStep : Step b event b') : b'.store.Canonical := by
  generalize hStore : b'.store = s
  cases hStore ▸ written_of_step hStep with
  | judged hEffect =>
    cases hEffect with
    | none => exact h.congr rfl
    | @batch contract nonce =>
      obtain ⟨_, _, _, hFrame⟩ := b.store.executeBatch_frame contract nonce
      refine h.congr ?_
      rw [hFrame]
    | valset => exact (h.executeValset _).congr rfl
  | built =>
    refine h.congr ?_
    rw [Store.takeBatch_eq]
  | valsetMade hMake => exact h.putValset (Valset.validate_of_make hMake)
  | _ => exact h.congr rfl

theorem Bridge.canonical_run {b : Bridge} (h : b.store.Canonical) (events : List Event) :
    (b.run events).store.Canonical :=
  run_induction (P := fun b => b.store.Canonical)
    (fun b event h => canonical_step h (step_after b event)) h events

end TokenBridge

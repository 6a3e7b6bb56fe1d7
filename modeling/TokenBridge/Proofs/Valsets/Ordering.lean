import TokenBridge.Proofs.Valsets.Canonical

/-!
# The order of signers

The contract hashes the members of a signer set as they are listed, so there has to be one order of
them and no other. Members with different keys are ordered strictly, by falling power and then by
the bytes of their keys, and members make up the same set in whatever order they are given.

* `ofBigEndian_lt_iff`, `Address.toBytes_lt_iff`: addresses are ordered like their bytes;
* `Member.Precedes`: the strict order of members; `eq_of_ordered`: it leaves no choice;
* `Valset.exists_make_iff`: the lists that make up a signer set; `make_eq_ok_iff_ordered`: the set
  that they make up; `make_perm`: their order does not matter;
* `Valset.canonical_form`: all of it.
-/

namespace TokenBridge

/-! ## Bytes -/

theorem foldl_bytes (n : Nat) (bytes : List UInt8) :
    bytes.foldl (fun n byte => 256 * n + byte.toNat) n =
      n * Nat.pow 256 bytes.length + ofBigEndian bytes := by
  induction bytes generalizing n with
  | nil => simp [ofBigEndian]
  | cons first rest ih =>
    have hPow : Nat.pow 256 (rest.length + 1) = 256 * Nat.pow 256 rest.length := Nat.pow_succ'
    have hFirst : ofBigEndian (first :: rest) =
        first.toNat * Nat.pow 256 rest.length + ofBigEndian rest := by
      rw [ofBigEndian, List.foldl_cons, ih, Nat.mul_zero, Nat.zero_add]
    have hShift : 256 * n * Nat.pow 256 rest.length = n * (256 * Nat.pow 256 rest.length) := by
      rw [Nat.mul_comm 256 n, Nat.mul_assoc]
    rw [List.foldl_cons, ih, hFirst, List.length_cons, hPow, Nat.add_mul, hShift]
    omega

theorem ofBigEndian_cons (first : UInt8) (rest : List UInt8) :
    ofBigEndian (first :: rest) =
      first.toNat * Nat.pow 256 rest.length + ofBigEndian rest := by
  have hFold : ofBigEndian (first :: rest) =
      (256 * 0 + first.toNat) * Nat.pow 256 rest.length + ofBigEndian rest :=
    foldl_bytes (256 * 0 + first.toNat) rest
  rwa [Nat.mul_zero, Nat.zero_add] at hFold

/-- Numbers of one width are compared by their bytes, the most significant one first. -/
theorem ofBigEndian_lt_iff {bytes bytes' : List UInt8} (h : bytes.length = bytes'.length) :
    ofBigEndian bytes < ofBigEndian bytes' ↔ bytes < bytes' := by
  induction bytes generalizing bytes' with
  | nil =>
    have hNil : bytes' = [] := List.length_eq_zero_iff.mp h.symm
    subst hNil
    simp
  | cons first rest ih =>
    cases bytes' with
    | nil => cases h
    | cons first' rest' =>
      have hRest : rest.length = rest'.length := Nat.succ.inj h
      have hLow : ofBigEndian rest < Nat.pow 256 rest.length := ofBigEndian_lt rfl
      have hLow' : ofBigEndian rest' < Nat.pow 256 rest.length := ofBigEndian_lt hRest.symm
      rw [ofBigEndian_cons, ofBigEndian_cons, List.cons_lt_cons_iff, ← ih hRest, ← hRest,
        UInt8.lt_iff_toNat_lt, ← UInt8.toNat_inj]
      generalize Nat.pow 256 rest.length = weight at *
      rcases Nat.lt_trichotomy first.toNat first'.toNat with hLess | hSame | hMore
      · have hStep := Nat.mul_le_mul_right weight (Nat.succ_le_of_lt hLess)
        rw [Nat.succ_mul] at hStep
        omega
      · rw [hSame]
        omega
      · have hStep := Nat.mul_le_mul_right weight (Nat.succ_le_of_lt hMore)
        rw [Nat.succ_mul] at hStep
        omega

theorem Address.toBytes_lt_iff {party : Party} {a b : Address party} :
    a.toBytes < b.toBytes ↔ a.word.toNat < b.word.toNat := by
  have hLength : a.toBytes.length = b.toBytes.length :=
    (Word.length_toBytes a.word).trans (Word.length_toBytes b.word).symm
  have hLeft : ofBigEndian a.toBytes = a.word.toNat := ofBigEndian_bigEndian a.word.isLt
  have hRight : ofBigEndian b.toBytes = b.word.toNat := ofBigEndian_bigEndian b.word.isLt
  rw [← ofBigEndian_lt_iff hLength, hLeft, hRight]

theorem Address.requireNonZero_eq_ok {party : Party} {a : Address party} :
    a.requireNonZero = .ok () ↔ a.isZero = false := by
  rw [requireNonZero]
  cases a.isZero with
  | false => simp
  | true => simp

/-! ## Members -/

namespace Member

variable {a b m : Member}

/-- The strict order of members: a higher power, or the same power and a lower key. -/
def Precedes (a b : Member) : Prop :=
  b.power < a.power ∨ a.power = b.power ∧ a.address.toBytes < b.address.toBytes

instance : DecidableRel Precedes :=
  fun _ _ => inferInstanceAs (Decidable (_ ∨ _))

theorem precedes_iff :
    a.Precedes b ↔ b.power.toNat < a.power.toNat ∨
      a.power.toNat = b.power.toNat ∧ a.address.word.toNat < b.address.word.toNat := by
  rw [Precedes, UInt64.lt_iff_toNat_lt, Address.toBytes_lt_iff, ← UInt64.toNat_inj]

theorem Precedes.asymm (h : a.Precedes b) : ¬b.Precedes a := by
  rw [precedes_iff] at *
  omega

theorem precedes_of_le (h : a.le b = true) (hKeys : a.address ≠ b.address) : a.Precedes b := by
  have hNe : a.address.word.toNat ≠ b.address.word.toNat := by
    intro hEq
    exact hKeys (congrArg Address.mk (Word.ext hEq))
  rw [le_iff] at h
  rw [precedes_iff]
  omega

/-- There is one way to list members in their strict order. -/
theorem eq_of_ordered {l l' : List Member} (hPerm : l.Perm l') (hl : l.Pairwise Precedes)
    (hl' : l'.Pairwise Precedes) : l = l' :=
  hPerm.eq_of_pairwise (fun _ _ _ _ hab hba => absurd hba hab.asymm) hl hl'

theorem validate_eq_ok : m.validate = .ok () ↔ 0 < m.power ∧ m.address.isZero = false := by
  rw [validate, UInt64.pos_iff_ne_zero, ← Address.requireNonZero_eq_ok]
  by_cases hZero : m.power = 0
  · rw [if_pos hZero]
    constructor
    · intro h
      cases h
    · exact fun h => absurd hZero h.1
  · rw [if_neg hZero]
    exact ⟨fun h => ⟨hZero, Bridge.mapError_eq_ok.mp h⟩, fun h => Bridge.mapError_eq_ok.mpr h.2⟩

end Member

/-! ## Signer sets -/

namespace Valset

variable {nonce : Nonce} {members members' : List Member} {v : Valset}

theorem exists_make_iff :
    (∃ v, make nonce members = .ok v) ↔
      members ≠ [] ∧ (∀ m ∈ members, 0 < m.power ∧ m.address.isZero = false) ∧
        (members.map Member.address).Nodup := by
  constructor
  · rintro ⟨v, hMake⟩
    obtain ⟨hSome, hValid, hNodup, -⟩ := make_eq_ok.mp hMake
    exact ⟨hSome, fun m hMem => Member.validate_eq_ok.mp (hValid m hMem), hNodup⟩
  · rintro ⟨hSome, hValid, hNodup⟩
    exact ⟨_, make_eq_ok.mpr
      ⟨hSome, fun m hMem => Member.validate_eq_ok.mpr (hValid m hMem), hNodup, rfl⟩⟩

theorem nonce_of_make (h : make nonce members = .ok v) : v.nonce = nonce := by
  obtain ⟨-, -, -, rfl⟩ := make_eq_ok.mp h
  rfl

theorem perm_of_make (h : make nonce members = .ok v) : v.members.Perm members := by
  obtain ⟨-, -, -, rfl⟩ := make_eq_ok.mp h
  exact List.mergeSort_perm _ _

theorem members_of_make {nonce' : Nonce} {w : Valset} (h : make nonce members = .ok v)
    (h' : make nonce' members = .ok w) : v.members = w.members := by
  obtain ⟨-, -, -, rfl⟩ := make_eq_ok.mp h
  obtain ⟨-, -, -, rfl⟩ := make_eq_ok.mp h'
  rfl

theorem ordered_of_make (h : make nonce members = .ok v) :
    v.members.Pairwise Member.Precedes := by
  obtain ⟨-, -, hNodup, rfl⟩ := make_eq_ok.mp h
  have hSorted : (members.mergeSort Member.le).Pairwise fun a b => a.le b = true :=
    List.pairwise_mergeSort Member.le_trans Member.le_total _
  have hKeys : ((members.mergeSort Member.le).map Member.address).Nodup :=
    ((List.mergeSort_perm members Member.le).map _).nodup_iff.mpr hNodup
  exact hSorted.imp₂ (fun _ _ => Member.precedes_of_le) (List.pairwise_map.mp hKeys)

/-- The signer set of some members is the one that lists them in their strict order. -/
theorem make_eq_ok_iff_ordered :
    make nonce members = .ok v ↔
      (members ≠ [] ∧ (∀ m ∈ members, 0 < m.power ∧ m.address.isZero = false) ∧
        (members.map Member.address).Nodup) ∧
      v.nonce = nonce ∧ v.members.Perm members ∧ v.members.Pairwise Member.Precedes := by
  constructor
  · intro h
    exact ⟨exists_make_iff.mp ⟨v, h⟩, nonce_of_make h, perm_of_make h, ordered_of_make h⟩
  · rintro ⟨hValid, hNonce, hPerm, hOrdered⟩
    obtain ⟨w, hMake⟩ := exists_make_iff.mpr hValid
    have hMembers : v.members = w.members :=
      Member.eq_of_ordered (hPerm.trans (perm_of_make hMake).symm) hOrdered (ordered_of_make hMake)
    have hNonces : v.nonce = w.nonce := hNonce.trans (nonce_of_make hMake).symm
    rw [hMake]
    cases v
    cases w
    simp_all

theorem make_perm (hPerm : members.Perm members') (h : make nonce members = .ok v) :
    make nonce members' = .ok v := by
  obtain ⟨⟨hSome, hValid, hNodup⟩, hNonce, hMembers, hOrdered⟩ := make_eq_ok_iff_ordered.mp h
  apply make_eq_ok_iff_ordered.mpr
  refine ⟨⟨?_, ?_, (hPerm.map _).nodup_iff.mp hNodup⟩, hNonce, hMembers.trans hPerm, hOrdered⟩
  · intro hNil
    apply hSome
    exact List.perm_nil.mp (hNil ▸ hPerm)
  · intro m hMem
    exact hValid m (hPerm.mem_iff.mpr hMem)

theorem validate_iff_exists_make :
    v.validate = .ok () ↔ ∃ made, make v.nonce v.members = .ok made ∧ made.members = v.members := by
  rw [validate_eq_ok]
  constructor
  · exact fun hMake => ⟨v, hMake, rfl⟩
  · rintro ⟨made, hMake, hMembers⟩
    have hNonce := nonce_of_make hMake
    cases made
    cases v
    simp_all

/-- **The canonical form of signer sets.** A list of members makes up a signer set just when it is
not empty, all powers are positive, and the keys are different and none is zero. The set has these
members in strictly falling order of power and then rising order of the bytes of the keys, which
leaves one choice, and it is valid. Lists of the same members in another order make up the same set,
whose checkpoints are the same then, or are both refused. A set is valid, wherever it was read from,
just when its members make up a set with these members in this order. -/
theorem canonical_form :
    (∀ nonce members, (∃ v, make nonce members = .ok v) ↔
      members ≠ [] ∧ (∀ m ∈ members, 0 < m.power ∧ m.address.isZero = false) ∧
        (members.map Member.address).Nodup) ∧
    (∀ nonce members v, make nonce members = .ok v →
      v.nonce = nonce ∧ v.members.Perm members ∧ v.members.Pairwise Member.Precedes ∧
      (∀ l, l.Perm members → l.Pairwise Member.Precedes → l = v.members) ∧
      v.validate = .ok ()) ∧
    (∀ nonce members members', members.Perm members' →
      (∃ v, make nonce members = .ok v ∧ make nonce members' = .ok v) ∨
      (∃ fault fault', make nonce members = .error fault ∧
        make nonce members' = .error fault')) ∧
    (∀ v : Valset, v.validate = .ok () ↔
      ∃ made, make v.nonce v.members = .ok made ∧ made.members = v.members) := by
  refine ⟨?_, ?_, ?_, ?_⟩
  · intro nonce members
    exact exists_make_iff
  · intro nonce members v hMake
    have hPerm := perm_of_make hMake
    have hOrdered := ordered_of_make hMake
    refine ⟨nonce_of_make hMake, hPerm, hOrdered, ?_, validate_of_make hMake⟩
    intro l hSame hl
    exact Member.eq_of_ordered (hSame.trans hPerm.symm) hl hOrdered
  · intro nonce members members' hPerm
    cases hLeft : make nonce members with
    | ok v => exact Or.inl ⟨v, rfl, make_perm hPerm hLeft⟩
    | error fault =>
      cases hRight : make nonce members' with
      | error fault' => exact Or.inr ⟨fault, fault', rfl, rfl⟩
      | ok w =>
        have hBack := make_perm hPerm.symm hRight
        rw [hLeft] at hBack
        cases hBack
  · intro v
    exact validate_iff_exists_make

end Valset

end TokenBridge

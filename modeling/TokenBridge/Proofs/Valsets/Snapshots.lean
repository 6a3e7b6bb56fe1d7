import TokenBridge.Proofs.Checkpoints.Preimages
import TokenBridge.Proofs.Genesis.Custody
import TokenBridge.Proofs.Table.Building
import TokenBridge.Proofs.Valsets.Newest
import TokenBridge.Proofs.Valsets.Ordering

/-!
# Snapshots of the validators

A key that two validators had, or that was zero, would spoil every signer set. No event registers
such a key and no valid document lists one, not even a document that names a validator twice; so the
validators of the moment make up a signer set as long as one of them counts and a nonce is left.

* `Genesis.Sound.owned_load`, `Genesis.Sound.canonical_load`: what a loaded document leaves;
* `Opened`, `Intact`, `intact_run`: bridges that started from an empty store or a loaded document;
* `member?`, `mem_snapshot`: who is in a snapshot; `nodup_snapshot`: its keys are different;
* `exists_currentValset_iff`: when the validators make up a signer set;
* `requests_run`: keys and requests along a run.
-/

namespace TokenBridge

/-! ## Loaded keys and signer sets -/

namespace Genesis

variable {g : Genesis}

theorem mem_keys_of_load {validator : ValidatorAddress} {key : EthAddress}
    (h : (Store.empty.load g).key? validator = some key) : ⟨validator, key⟩ ∈ g.keys := by
  rw [Store.key?, Store.load_eq] at h
  have hEntry := Table.mem_entries_iff.mpr h
  rcases Table.mem_entries_foldl_insert hEntry with hListed | hNone
  · obtain ⟨r, hMem, hSame⟩ := List.mem_map.mp hListed
    obtain ⟨rfl, rfl⟩ := Prod.mk.inj hSame
    exact hMem
  · exact absurd hNone List.not_mem_nil

/-- A document that names a validator twice leaves one of its keys, and a key is listed once. -/
theorem Sound.owned_load (h : g.Sound) : (Store.empty.load g).Owned where
  nonZero validator key hFound := h.keys _ (mem_keys_of_load hFound)
  apart validator other key hFound hFound' := by
    have hSame := List.inj_on_of_nodup_map h.keyAddresses (mem_keys_of_load hFound)
      (mem_keys_of_load hFound') rfl
    exact congrArg KeyRegistration.validator hSame

theorem Sound.canonical_load (h : g.Sound) : (Store.empty.load g).Canonical := by
  rw [Store.load_eq]
  exact ⟨(Table.keyedBy_empty _).foldl_insert g.valsets,
    fun v hMem => h.valsets v ((Table.perm_values_build h.valsetNonces).subset hMem)⟩

end Genesis

namespace Bridge

variable {b b' : Bridge} {v : Valset}

/-! ## Bridges that have started -/

/-- A bridge with valid settings and an empty store, or one into whose empty store a document was
loaded. -/
inductive Opened : Bridge → Prop
  | blank {origin : Bridge} (hParams : origin.params.validate = .ok ()) : Opened origin.blank
  | loaded {host loaded : Bridge} {g : Genesis}
      (hLoad : initGenesis g host.blank = .ok () loaded) : Opened loaded

/-- Settings, keys and signer sets are in order. -/
structure Intact (b : Bridge) : Prop where
  params : b.params.validate = .ok ()
  owned : b.store.Owned
  canonical : b.store.Canonical

theorem Opened.intact (h : Opened b) : b.Intact := by
  cases h with
  | blank hParams => exact ⟨hParams, Store.owned_empty, Store.canonical_empty⟩
  | loaded hLoad =>
    obtain ⟨hValid, rfl⟩ := initGenesis_eq_ok hLoad
    have hSound := Genesis.validate_eq_ok.mp hValid
    exact ⟨hSound.params, hSound.owned_load, hSound.canonical_load⟩

theorem intact_run (h : b.Intact) (events : List Event) : (b.run events).Intact := by
  refine run_induction (P := Intact) (fun b event h => ?_) h events
  have hStep := step_after b event
  refine ⟨?_, owned_step h.owned hStep, canonical_step h.canonical hStep⟩
  rw [params_step hStep]
  exact h.params

/-! ## Snapshots -/

/-- A bonded validator of some power has registered a key. -/
def Holder (b : Bridge) (key : EthAddress) (power : UInt64) : Prop :=
  ∃ validator, (validator, power) ∈ b.registry.bonded ∧ b.store.key? validator = some key

/-- No key is that of two bonded validators. -/
def KeysApart (b : Bridge) : Prop :=
  ∀ entry ∈ b.registry.bonded, ∀ other ∈ b.registry.bonded, ∀ key,
    b.store.key? entry.1 = some key → b.store.key? other.1 = some key → entry.1 = other.1

theorem keysApart_iff :
    b.KeysApart ↔ ∀ entry ∈ b.registry.bonded, ∀ other ∈ b.registry.bonded,
      (b.store.key? entry.1).isSome → b.store.key? entry.1 = b.store.key? other.1 →
        entry.1 = other.1 := by
  constructor
  · intro h entry hEntry other hOther hSome hSame
    obtain ⟨key, hKey⟩ := Option.isSome_iff_exists.mp hSome
    exact h entry hEntry other hOther key hKey (hSame ▸ hKey)
  · intro h entry hEntry other hOther key hKey hKey'
    exact h entry hEntry other hOther (hKey ▸ rfl) (hKey.trans hKey'.symm)

instance : Decidable b.KeysApart :=
  decidable_of_iff' _ keysApart_iff

theorem keysApart_of_owned (h : b.store.Owned) : b.KeysApart :=
  fun entry _ other _ key hKey hKey' => h.apart entry.1 other.1 key hKey hKey'

/-- The member that a validator of some power is, if it is one. -/
def member? (b : Bridge) (validator : ValidatorAddress) (power : UInt64) : Option Member :=
  match b.store.key? validator with
  | none => none
  | some key =>
    let weight := normalizePower power b.registry.totalPower
    if weight = 0 then none else some ⟨weight, key⟩

theorem snapshot_eq (b : Bridge) :
    b.snapshot = b.registry.bonded.filterMap fun entry => b.member? entry.1 entry.2 := rfl

theorem member?_eq_some {validator : ValidatorAddress} {power : UInt64} {m : Member} :
    b.member? validator power = some m ↔
      b.store.key? validator = some m.address ∧
        m.power = normalizePower power b.registry.totalPower ∧ 0 < m.power := by
  rw [member?, UInt64.pos_iff_ne_zero]
  cases b.store.key? validator with
  | none => simp
  | some key =>
    by_cases hZero : normalizePower power b.registry.totalPower = 0
    · simp only [if_pos hZero]
      constructor
      · intro h
        cases h
      · rintro ⟨-, hPower, hSome⟩
        exact absurd (hPower.trans hZero) hSome
    · simp only [if_neg hZero]
      constructor
      · intro h
        cases h
        exact ⟨rfl, rfl, hZero⟩
      · rintro ⟨hKey, hPower, -⟩
        cases m
        simp_all

theorem mem_snapshot {m : Member} :
    m ∈ b.snapshot ↔ ∃ power, b.Holder m.address power ∧
      m.power = normalizePower power b.registry.totalPower ∧ 0 < m.power := by
  rw [snapshot_eq, List.mem_filterMap]
  constructor
  · rintro ⟨⟨validator, power⟩, hBonded, hMember⟩
    obtain ⟨hKey, hPower, hSome⟩ := member?_eq_some.mp hMember
    exact ⟨power, ⟨validator, hBonded, hKey⟩, hPower, hSome⟩
  · rintro ⟨power, ⟨validator, hBonded, hKey⟩, hPower, hSome⟩
    exact ⟨(validator, power), hBonded, member?_eq_some.mpr ⟨hKey, hPower, hSome⟩⟩

/-- Nobody is in the snapshot just when no key holder counts. -/
theorem snapshot_eq_nil :
    b.snapshot = [] ↔ ∀ key power, b.Holder key power →
      normalizePower power b.registry.totalPower = 0 := by
  rw [List.eq_nil_iff_forall_not_mem]
  constructor
  · intro hNone key power hHolder
    by_contra hSome
    exact hNone ⟨normalizePower power b.registry.totalPower, key⟩
      (mem_snapshot.mpr ⟨power, hHolder, rfl, UInt64.pos_iff_ne_zero.mpr hSome⟩)
  · intro hNone m hMem
    obtain ⟨power, hHolder, hPower, hSome⟩ := mem_snapshot.mp hMem
    rw [hPower, hNone m.address power hHolder] at hSome
    exact absurd hSome (UInt64.lt_irrefl 0)

theorem pairwise_bonded (r : Registry) : r.bonded.Pairwise fun a b => a.1 ≠ b.1 := by
  rw [Registry.bonded, List.pairwise_map]
  exact (r.standings.sorted.imp before_ne).filter _

theorem nodup_snapshot (h : b.KeysApart) : (b.snapshot.map Member.address).Nodup := by
  rw [snapshot_eq, List.nodup_iff_pairwise_ne, List.pairwise_map, List.pairwise_filterMap]
  refine (pairwise_bonded b.registry).imp_of_mem fun {entry other} hEntry hOther hNe => ?_
  intro m hMember m' hMember' hSame
  have hKey := (member?_eq_some.mp hMember).1
  have hKey' := (member?_eq_some.mp hMember').1
  exact hNe (h entry hEntry other hOther m.address hKey (hSame ▸ hKey'))

/-! ## Signer sets of the moment -/

theorem newestValset_lt_iff (h : b.store.valsets.KeyedBy Valset.nonce) :
    b.store.newestValset.toNat + 1 < UInt64.size ↔
      ∀ v ∈ b.store.valsets.values, v.nonce.toNat < UInt64.size - 1 := by
  constructor
  · intro hRoom v hMem
    have hLow : v.nonce.toNat ≤ b.store.newestValset.toNat :=
      Store.le_newestValset h ((Store.mem_valsets_iff h).mp hMem)
    omega
  · intro hRoom
    rw [Store.newestValset, Store.latestValset?]
    cases hLast : b.store.valsets.values.getLast? with
    | none => decide
    | some newest =>
      have hNewest := hRoom newest (List.mem_of_getLast? hLast)
      simp only [Option.map_some, Option.getD_some]
      omega

theorem make_of_currentValset (h : b.currentValset = .ok v) :
    Valset.make v.nonce b.snapshot = .ok v ∧ v.nonce.toNat = b.store.newestValset.toNat + 1 := by
  obtain ⟨nonce, hNonce, hMake⟩ := checked_bind_eq_ok.mp h
  have hMake := mapError_eq_ok.mp hMake
  rw [Valset.nonce_of_make hMake]
  exact ⟨hMake, following_eq_ok hNonce⟩

/-- The validators make up a signer set just when one of them counts and a nonce is left. -/
theorem exists_currentValset_iff (h : b.store.Owned) :
    (∃ v, b.currentValset = .ok v) ↔
      b.snapshot ≠ [] ∧ b.store.newestValset.toNat + 1 < UInt64.size := by
  constructor
  · rintro ⟨v, hMake⟩
    obtain ⟨hMake, hNonce⟩ := make_of_currentValset hMake
    exact ⟨(Valset.exists_make_iff.mp ⟨v, hMake⟩).1, hNonce ▸ v.nonce.value.toNat_lt⟩
  · rintro ⟨hSome, hRoom⟩
    obtain ⟨nonce, hNonce⟩ := following_of_lt hRoom
    obtain ⟨v, hMake⟩ : ∃ v, Valset.make nonce b.snapshot = .ok v := by
      apply Valset.exists_make_iff.mpr
      refine ⟨hSome, ?_, nodup_snapshot (keysApart_of_owned h)⟩
      intro m hMem
      obtain ⟨power, ⟨validator, -, hKey⟩, -, hPower⟩ := mem_snapshot.mp hMem
      exact ⟨hPower, Address.requireNonZero_eq_ok.mp (h.nonZero validator m.address hKey)⟩
    exact ⟨v, checked_bind_eq_ok.mpr ⟨nonce, hNonce, mapError_eq_ok.mpr hMake⟩⟩

theorem storeValset_of_checkpoint {hash : Digest} (h : b.checkpointOfValset v = .ok hash) :
    storeValset v b = .ok () { b with store := b.store.putValset v } := by
  rw [storeValset, get_bind_apply, check_bind_of_ok h]
  rfl

theorem requestValset_eq_ok_iff (hParams : b.params.validate = .ok ()) :
    requestValset b = .ok v b' ↔
      b.currentValset = .ok v ∧ b' = { b with store := b.store.putValset v } := by
  constructor
  · intro h
    cases handled_requestValset h with
    | requested hSome hMake => exact ⟨hMake, rfl⟩
  · rintro ⟨hMake, rfl⟩
    have hSome : ¬b.snapshot.isEmpty = true := by
      intro hEmpty
      have hMade := (make_of_currentValset hMake).1
      exact (Valset.exists_make_iff.mp ⟨v, hMade⟩).1 (List.isEmpty_iff.mp hEmpty)
    obtain ⟨hash, hHash⟩ := exists_checkpointOfValset hParams v
    rw [requestValset, get_bind_apply]
    simp only [if_neg hSome]
    rw [check_bind_of_ok hMake, bind_of_ok (storeValset_of_checkpoint hHash)]
    rfl

/-! ## Runs -/

/-- **Keys and requests.** Along a run from an empty store, or from a document that was loaded into
an empty store, no registered key is zero and none is that of two validators. A signer set is made
on request just when a key holder has a share that counts and no stored set has the largest nonce,
and its members are the key holders with a share that counts, each once and with that share. -/
theorem requests_run (start : Bridge) (hOpened : Opened start) (events : List Event) :
    let b := start.run events
    (∀ validator key, b.store.key? validator = some key → key.isZero = false) ∧
    (∀ validator other key, b.store.key? validator = some key → b.store.key? other = some key →
      validator = other) ∧
    ((∃ v b', requestValset b = .ok v b') ↔
      (∃ key power, b.Holder key power ∧ 0 < normalizePower power b.registry.totalPower) ∧
      ∀ v ∈ b.store.valsets.values, v.nonce.toNat < UInt64.size - 1) ∧
    (∀ v b', requestValset b = .ok v b' →
      (v.members.map Member.address).Nodup ∧
      ∀ m, m ∈ v.members ↔ ∃ power, b.Holder m.address power ∧
        m.power = normalizePower power b.registry.totalPower ∧ 0 < m.power) := by
  intro b
  have hIntact : b.Intact := intact_run hOpened.intact events
  have hCounts : b.snapshot ≠ [] ↔
      ∃ key power, b.Holder key power ∧ 0 < normalizePower power b.registry.totalPower := by
    rw [ne_eq, snapshot_eq_nil]
    simp only [not_forall, exists_prop, UInt64.pos_iff_ne_zero, ne_eq]
  refine ⟨?_, hIntact.owned.apart, ?_, ?_⟩
  · intro validator key hKey
    exact Address.requireNonZero_eq_ok.mp (hIntact.owned.nonZero validator key hKey)
  · rw [← hCounts, ← newestValset_lt_iff hIntact.canonical.keyed,
      ← exists_currentValset_iff hIntact.owned]
    constructor
    · rintro ⟨v, b', hRequest⟩
      exact ⟨v, ((requestValset_eq_ok_iff hIntact.params).mp hRequest).1⟩
    · rintro ⟨v, hMake⟩
      exact ⟨v, _, (requestValset_eq_ok_iff hIntact.params).mpr ⟨hMake, rfl⟩⟩
  · intro v b' hRequest
    have hMade := ((requestValset_eq_ok_iff hIntact.params).mp hRequest).1
    have hPerm := Valset.perm_of_make (make_of_currentValset hMade).1
    constructor
    · exact (hPerm.map _).nodup_iff.mpr (nodup_snapshot (keysApart_of_owned hIntact.owned))
    · intro m
      rw [hPerm.mem_iff, mem_snapshot]

/-- A document that gives the first validator two keys, of which the later one stays. -/
def rekeyed : Genesis :=
  { Genesis.blank .default with
    keys := [⟨⟨.ofNat 20 1⟩, ⟨.ofNat 20 7⟩⟩, ⟨⟨.ofNat 20 1⟩, ⟨.ofNat 20 8⟩⟩,
      ⟨⟨.ofNat 20 2⟩, ⟨.ofNat 20 9⟩⟩] }

/-- Two validators bond, the second one with twice the power. -/
def oneAndTwo : List Event :=
  [.staking (.bond ⟨.ofNat 20 1⟩ 1 ⟨.ofNat 20 3⟩), .staking (.bond ⟨.ofNat 20 2⟩ 2 ⟨.ofNat 20 4⟩)]

/-- The signer set has the later key of the first validator. -/
theorem requests_of_rekeyed :
    ∃ loaded, initGenesis rekeyed (default : Bridge).blank = .ok () loaded ∧ Opened loaded ∧
      ∃ v b', requestValset (loaded.run oneAndTwo) = .ok v b' ∧
        ⟨1431655765, ⟨.ofNat 20 8⟩⟩ ∈ v.members ∧ ⟨2863311530, ⟨.ofNat 20 9⟩⟩ ∈ v.members := by
  have hValid : rekeyed.validate = .ok () := by decide +kernel
  have hLoad := initGenesis_apply hValid (default : Bridge).blank
  have hOpened : Opened _ := .loaded hLoad
  obtain ⟨-, -, hAsk, hMembers⟩ := requests_run _ hOpened oneAndTwo
  generalize hLoaded : ({ (default : Bridge).blank with
    store := (default : Bridge).blank.store.load rekeyed
    params := rekeyed.params } : Bridge) = loaded at *
  have hFirst : (loaded.run oneAndTwo).Holder ⟨.ofNat 20 8⟩ 1 := by
    rw [← hLoaded]
    exact ⟨⟨.ofNat 20 1⟩, by decide +kernel, by decide +kernel⟩
  have hSecond : (loaded.run oneAndTwo).Holder ⟨.ofNat 20 9⟩ 2 := by
    rw [← hLoaded]
    exact ⟨⟨.ofNat 20 2⟩, by decide +kernel, by decide +kernel⟩
  have hTotal : (loaded.run oneAndTwo).registry.totalPower = 3 := by
    rw [← hLoaded]
    decide +kernel
  have hNone : (loaded.run oneAndTwo).store.valsets.values = [] := by
    rw [← hLoaded]
    decide +kernel
  rw [hTotal] at hAsk
  obtain ⟨v, b', hRequest⟩ := hAsk.mpr ⟨⟨_, _, hFirst, by decide⟩, by simp [hNone]⟩
  obtain ⟨-, hMembers⟩ := hMembers v b' hRequest
  rw [hTotal] at hMembers
  exact ⟨loaded, hLoad, hOpened, v, b', hRequest,
    (hMembers _).mpr ⟨1, hFirst, by decide, by decide⟩,
    (hMembers _).mpr ⟨2, hSecond, by decide, by decide⟩⟩

end Bridge

end TokenBridge

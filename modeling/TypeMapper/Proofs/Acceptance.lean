import TypeMapper.Acceptance
import TypeMapper.Proofs.Arena.Reachability
/-!
# Rejection as a closure

Rounds reject mappings that delegate to a rejected one until a round rejects nothing. In the end a
mapping is rejected exactly if it reaches one that was rejected at the start, and each mapping that
was rejected on the way has got one report.

* `Arena.Rejected`: an error was reported on the mapping.
* `Arena.rejected_round_iff`: what one round rejects; `Arena.accepted_round`: how many.
* `Arena.RejectionClosure`: what the rounds have to come to, field by field.
* `Arena.rejectDelegates_closure`: they do; `rejectRounds_of_accepted_lt`: and they come to an end.
-/

namespace TypeMapper

/-! ## 1. Reports -/

theorem Mapping.isValid_report (m : Mapping) (ds : List Diagnostic) :
    (m.report ds).isValid = (m.isValid && !Diagnostic.hasErrors ds) := by
  simp only [isValid, report, Diagnostic.hasErrors_append, Bool.not_or]

namespace Arena

variable {a b r : Arena} {id t : MappingId} {m k : Mapping} {n : Nat}

theorem isValid_rejection (m k : Mapping) : (m.report [rejection m k]).isValid = false := by
  rw [Mapping.isValid_report]
  exact Bool.and_false _

/-- The mapping of an id is rejected: an error was reported on it. -/
def Rejected (a : Arena) (id : MappingId) : Prop := (a.get? id).map Mapping.isValid = some false

instance (a : Arena) (id : MappingId) : Decidable (a.Rejected id) :=
  inferInstanceAs (Decidable ((a.get? id).map Mapping.isValid = some false))

theorem rejected_iff : a.Rejected id ↔ ∃ m, a.get? id = some m ∧ m.isValid = false :=
  Option.map_eq_some_iff

theorem rejected_iff_of_get? (h : a.get? id = some m) : a.Rejected id ↔ m.isValid = false := by
  rw [Rejected, h]
  exact Option.some_inj

/-! ## 2. One round -/

/-- What stops a mapping: it is accepted, and a mapping that it delegates to is rejected. -/
theorem rejectedTarget?_eq_some (h : a.rejectedTarget? id m = some k) :
    m.isValid = true ∧ ∃ t ∈ m.targets, a.get? t = some k ∧ k.isValid = false := by
  unfold rejectedTarget? at h
  split at h
  · rename_i hv
    obtain ⟨t, ht, hk⟩ := List.exists_of_findSome?_eq_some h
    obtain ⟨hget, hk⟩ := Option.filter_eq_some_iff.mp hk
    exact ⟨hv, t, (List.mem_filter.mp ht).1, hget, by simpa using hk⟩
  · cases h

/-- An accepted mapping that delegates to a rejected one is stopped. -/
theorem isSome_rejectedTarget? (hm : a.get? id = some m) (hv : m.isValid = true)
    (ht : t ∈ m.targets) (hr : a.Rejected t) : (a.rejectedTarget? id m).isSome = true := by
  obtain ⟨k, hk, hkv⟩ := rejected_iff.mp hr
  -- a mapping does not stop itself: it is accepted
  have hne : t ≠ id := by
    rintro rfl
    rw [hm, Option.some.injEq] at hk
    rw [hk, hkv] at hv
    cases hv
  rw [rejectedTarget?, if_pos hv, List.isSome_findSome?, List.any_eq_true]
  exact ⟨t, List.mem_filter.mpr ⟨ht, bne_iff_ne.mpr hne⟩, by simp [hk, hkv]⟩

/-- The arena after one round. -/
def rejectRound (a : Arena) : Arena := a.transform a.rejectOne

theorem rejectOne_key (a : Arena) (id : MappingId) (m : Mapping) :
    (a.rejectOne id m).key = m.key := by
  unfold rejectOne
  split <;> rfl

theorem rejectOne_properties (a : Arena) (id : MappingId) (m : Mapping) :
    (a.rejectOne id m).properties = m.properties := by
  unfold rejectOne
  split <;> rfl

theorem get?_rejectRound (a : Arena) (id : MappingId) :
    a.rejectRound.get? id = (a.get? id).map (a.rejectOne id) :=
  get?_transform_of_key a.rejectOne_key a id

theorem delegates_rejectRound (a : Arena) : a.rejectRound.Delegates = a.Delegates :=
  delegates_transform a.rejectOne_properties a

theorem isValid_rejectOne (a : Arena) (id : MappingId) (m : Mapping) :
    (a.rejectOne id m).isValid = (m.isValid && !(a.rejectedTarget? id m).isSome) := by
  unfold rejectOne
  cases h : a.rejectedTarget? id m with
  | none => simp
  | some k =>
      simp only [Option.isSome_some, Bool.not_true, Bool.and_false]
      exact isValid_rejection m k

/-- **A round rejects what delegates to a rejected mapping**, and nothing else. -/
theorem rejected_round_iff :
    a.rejectRound.Rejected id ↔ a.Rejected id ∨ ∃ t, a.Delegates id t ∧ a.Rejected t := by
  cases hm : a.get? id with
  | none =>
      have hno : a.rejectRound.get? id = none := by rw [get?_rejectRound, hm]; rfl
      simp [Rejected, Delegates, hm, hno]
  | some m =>
      have hr : a.rejectRound.get? id = some (a.rejectOne id m) := by
        rw [get?_rejectRound, hm]
        rfl
      rw [rejected_iff_of_get? hr, rejected_iff_of_get? hm, isValid_rejectOne]
      constructor
      · intro h
        cases hs : a.rejectedTarget? id m with
        | none =>
            rw [hs] at h
            exact Or.inl (by simpa using h)
        | some k =>
            obtain ⟨-, t, ht, hk, hkv⟩ := rejectedTarget?_eq_some hs
            exact Or.inr ⟨t, ⟨m, hm, ht⟩, (rejected_iff_of_get? hk).mpr hkv⟩
      · rintro (hv | ⟨t, hd, ht⟩)
        · rw [hv, Bool.false_and]
        · cases hv : m.isValid with
          | false => rfl
          | true =>
              rw [isSome_rejectedTarget? hm hv ((delegates_iff_of_get? hm).mp hd) ht]
              rfl

theorem rejectCount_eq_zero_iff : a.rejectCount = 0 ↔
    ∀ id m, a.get? id = some m → a.rejectedTarget? id m = none := by
  rw [rejectCount, List.countP_eq_zero]
  constructor
  · intro h id m hm
    simpa using h (id, m) (mem_entries_iff.mpr hm)
  · intro h p hp
    simp [h p.1 p.2 (mem_entries_iff.mp hp)]

/-- Where a round rejects nothing, what reaches a rejected mapping is rejected. -/
theorem rejected_of_reaches (h0 : a.rejectCount = 0) (hr : a.Reaches id t) (ht : a.Rejected t) :
    a.Rejected id := by
  induction hr using Relation.ReflTransGen.head_induction_on with
  | refl => exact ht
  | @head i j hstep _ ih =>
      obtain ⟨m, hm, hj⟩ := hstep
      refine (rejected_iff_of_get? hm).mpr (Bool.eq_false_of_not_eq_true fun hv => ?_)
      have hsome := isSome_rejectedTarget? hm hv hj ih
      rw [rejectCount_eq_zero_iff.mp h0 i m hm] at hsome
      cases hsome

/-! ## 3. Counting -/

/-- The number of accepted mappings. -/
def accepted (a : Arena) : Nat := a.entries.countP fun p => p.2.isValid

theorem entries_rejectRound (a : Arena) :
    a.rejectRound.entries = a.entries.map fun p => (p.1, a.rejectOne p.1 p.2) :=
  entries_transform a.rejectOne_key

theorem accepted_le_size (a : Arena) : a.accepted ≤ a.size := List.countP_le_length

/-- A mapping that a round rejects was accepted. -/
theorem isValid_of_isSome (h : (a.rejectedTarget? id m).isSome = true) : m.isValid = true := by
  obtain ⟨k, hk⟩ := Option.isSome_iff_exists.mp h
  exact (rejectedTarget?_eq_some hk).1

/-- **What a round rejects is no longer accepted, and nothing else changes.** -/
theorem accepted_round (a : Arena) : a.rejectRound.accepted + a.rejectCount = a.accepted := by
  rw [accepted, accepted, entries_rejectRound, List.countP_map, rejectCount]
  refine countP_split fun p _ => ?_
  rw [Function.comp_apply, isValid_rejectOne]
  cases hs : (a.rejectedTarget? p.1 p.2).isSome with
  | false => simp
  | true => simp [isValid_of_isSome hs]

/-! ## 4. Whole runs -/

/-- What the rejection of an arena `a` has to come to: the arena `r` and the number of rejected
mappings. -/
structure RejectionClosure (a r : Arena) (n : Nat) : Prop where
  /-- The pairs of types and their ids are the same. -/
  pairs : r.keys = a.keys
  /-- A mapping is rejected exactly if it reaches one that was. -/
  rejected : ∀ id, r.Rejected id ↔ ∃ t, a.Reaches id t ∧ a.Rejected t
  /-- A mapping that was rejected before, or is not rejected, is left alone. -/
  kept : ∀ id m, a.get? id = some m → (r.Rejected id → a.Rejected id) → r.get? id = some m
  /-- Any other one gets one report, about a rejected mapping that it delegates to. -/
  reported : ∀ id m, a.get? id = some m → ¬ a.Rejected id → r.Rejected id →
    ∃ t k, t ∈ m.targets ∧ a.get? t = some k ∧ r.Rejected t ∧
      r.get? id = some (m.report [rejection m k])
  /-- These are as many as the run says. -/
  count : n = a.entries.countP fun p => decide (r.Rejected p.1 ∧ ¬ a.Rejected p.1)
  /-- One more round rejects nothing. -/
  still : r.rejectCount = 0

/-- Where a round rejects nothing, rejection is over. -/
theorem rejectionClosure_stable (h0 : a.rejectCount = 0) : RejectionClosure a a 0 where
  pairs := rfl
  rejected _ := ⟨fun h => ⟨_, .refl, h⟩, fun ⟨_, hr, ht⟩ => rejected_of_reaches h0 hr ht⟩
  kept _ _ hm _ := hm
  reported _ _ _ hn hr := absurd hr hn
  count := (List.countP_eq_zero.mpr fun p _ => by simp).symm
  still := h0

/-- A round that rejects a mapping reports on it; a round leaves any other mapping alone. -/
theorem get?_rejectRound_cases (hm : a.get? id = some m) :
    (¬ a.Rejected id ∧ a.rejectRound.Rejected id ∧ ∃ t k, t ∈ m.targets ∧ a.get? t = some k ∧
      a.Rejected t ∧ a.rejectRound.get? id = some (m.report [rejection m k])) ∨
    ((a.rejectRound.Rejected id ↔ a.Rejected id) ∧ a.rejectRound.get? id = some m) := by
  have hr : a.rejectRound.get? id = some (a.rejectOne id m) := by rw [get?_rejectRound, hm]; rfl
  cases hs : a.rejectedTarget? id m with
  | none =>
      have e : a.rejectOne id m = m := by rw [rejectOne, hs]
      rw [e] at hr
      exact Or.inr ⟨by rw [rejected_iff_of_get? hr, rejected_iff_of_get? hm], hr⟩
  | some k =>
      have e : a.rejectOne id m = m.report [rejection m k] := by rw [rejectOne, hs]
      rw [e] at hr
      obtain ⟨hv, t, ht, hk, hkv⟩ := rejectedTarget?_eq_some hs
      refine Or.inl ⟨?_, ?_, t, k, ht, hk, (rejected_iff_of_get? hk).mpr hkv, hr⟩
      · rw [rejected_iff_of_get? hm, hv]
        exact Bool.noConfusion
      · exact (rejected_iff_of_get? hr).mpr (isValid_rejection m k)

/-- The mappings that a round rejects are counted. -/
theorem rejectCount_eq (a : Arena) : a.rejectCount =
    a.entries.countP fun p => decide (a.rejectRound.Rejected p.1 ∧ ¬ a.Rejected p.1) := by
  refine List.countP_congr fun p hp => ?_
  have hm : a.get? p.1 = some p.2 := mem_entries_iff.mp hp
  have hr : a.rejectRound.get? p.1 = some (a.rejectOne p.1 p.2) := by rw [get?_rejectRound, hm]; rfl
  rw [decide_eq_true_iff, rejected_iff_of_get? hr, rejected_iff_of_get? hm, isValid_rejectOne]
  constructor
  · intro h
    rw [h, isValid_of_isSome h]
    exact ⟨rfl, Bool.noConfusion⟩
  · rintro ⟨hand, hv⟩
    rw [Bool.not_eq_false] at hv
    simpa [hv] using hand

/-- **One more round before a run**: what the run comes to, the rounds come to together. -/
theorem RejectionClosure.round (h : RejectionClosure a.rejectRound r n) :
    RejectionClosure a r (n + a.rejectCount) := by
  have hmono : ∀ id, a.rejectRound.Rejected id → r.Rejected id := fun id hr =>
    (h.rejected id).mpr ⟨id, .refl, hr⟩
  have hround : ∀ id, a.Rejected id → a.rejectRound.Rejected id := fun id hr =>
    rejected_round_iff.mpr (Or.inl hr)
  have hreach : a.rejectRound.Reaches = a.Reaches := by
    rw [Reaches, Reaches, delegates_rejectRound]
  refine ⟨h.pairs.trans (keys_transform _ a), fun id => ?_, fun id m hm hk => ?_,
    fun id m hm hn hr => ?_, ?_, h.still⟩
  · rw [h.rejected, hreach]
    constructor
    · rintro ⟨t, ht, hr⟩
      rcases rejected_round_iff.mp hr with hr | ⟨u, hd, hu⟩
      · exact ⟨t, ht, hr⟩
      · exact ⟨u, ht.tail hd, hu⟩
    · rintro ⟨t, ht, hr⟩
      exact ⟨t, ht, hround t hr⟩
  · rcases get?_rejectRound_cases hm with ⟨hn, hr, -⟩ | ⟨-, hget⟩
    · exact absurd (hk (hmono id hr)) hn
    · exact h.kept id m hget fun hr => hround id (hk hr)
  · rcases get?_rejectRound_cases hm with ⟨-, hr1, t, k, ht, hkt, hrt, hget⟩ | ⟨hiff, hget⟩
    · exact ⟨t, k, ht, hkt, hmono t (hround t hrt), h.kept id _ hget fun _ => hr1⟩
    · obtain ⟨t, k, ht, hkt, hrt, hrep⟩ := h.reported id m hget (fun hr1 => hn (hiff.mp hr1)) hr
      rw [get?_rejectRound, Option.map_eq_some_iff] at hkt
      obtain ⟨k, hk, rfl⟩ := hkt
      -- the report names the pair of the target, which stays the same
      have e : rejection m (a.rejectOne t k) = rejection m k := by
        rw [rejection, rejection, rejectOne_key]
      exact ⟨t, k, ht, hk, hrt, e ▸ hrep⟩
  · rw [h.count, rejectCount_eq, entries_rejectRound, List.countP_map]
    refine countP_split fun p _ => ?_
    simp only [Function.comp_apply, ← Bool.decide_or, ← Bool.decide_and, decide_eq_decide,
      decide_eq_false_iff_not]
    refine ⟨⟨fun ⟨hr, hn⟩ => ?_, ?_⟩, fun ⟨⟨_, hn⟩, hr, _⟩ => hn hr⟩
    · by_cases hr1 : a.rejectRound.Rejected p.1
      · exact Or.inr ⟨hr1, hn⟩
      · exact Or.inl ⟨hr, hr1⟩
    · rintro (⟨hr, hn⟩ | ⟨hr, hn⟩)
      · exact ⟨hr, fun ha => hn (hround _ ha)⟩
      · exact ⟨hmono _ hr, hn⟩

/-- A run that is allowed more rounds than there are accepted mappings comes to the closure. -/
theorem rejectRounds_closure (h : a.accepted < n) :
    RejectionClosure a (rejectRounds n a).1 (rejectRounds n a).2 := by
  induction n generalizing a with
  | zero => omega
  | succ n ih =>
      unfold rejectRounds
      by_cases h0 : a.rejectCount = 0
      · rw [if_pos h0]
        exact rejectionClosure_stable h0
      · have hround := accepted_round a
        rw [if_neg h0]
        exact (ih (a := a.rejectRound) (by omega)).round

/-- **The number of rounds never cuts a run short**: with more rounds it is the same run. -/
theorem rejectRounds_of_accepted_lt {k : Nat} (hn : a.accepted < n) (hk : a.accepted < k) :
    rejectRounds n a = rejectRounds k a := by
  induction n generalizing a k with
  | zero => omega
  | succ n ih =>
      obtain ⟨k, rfl⟩ : ∃ j, k = j + 1 := ⟨k - 1, by omega⟩
      have hround := accepted_round a
      unfold rejectRounds
      by_cases h0 : a.rejectCount = 0
      · rw [if_pos h0, if_pos h0]
      · have e : rejectRounds n (a.transform a.rejectOne) =
            rejectRounds k (a.transform a.rejectOne) :=
          ih (a := a.rejectRound) (by omega) (by omega)
        rw [if_neg h0, if_neg h0, e]

theorem rejectRounds_eq (h : a.accepted < n) : rejectRounds n a = a.rejectDelegates :=
  rejectRounds_of_accepted_lt h (Nat.lt_succ_of_le a.accepted_le_size)

/-- **Rejection comes to the closure.** -/
theorem rejectDelegates_closure (a : Arena) :
    RejectionClosure a a.rejectDelegates.1 a.rejectDelegates.2 :=
  rejectRounds_closure (Nat.lt_succ_of_le a.accepted_le_size)

end Arena

end TypeMapper

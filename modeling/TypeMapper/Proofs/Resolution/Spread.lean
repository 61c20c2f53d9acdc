import TypeMapper.Proofs.Arena.Reachability
import TypeMapper.Proofs.Resolution.Async
/-!
# Where asynchrony spreads to

A round makes the callers of asynchronous routines asynchronous. So the rounds come to the least set
of routines that contains those that were asynchronous at the start, and with a routine its callers:
a routine ends asynchronous exactly if its calls reach one of those at the start.

* `Arena.isAsync_asyncRound_iff`: one round.
* `Arena.asyncRounds_of_idle_lt`: any number of rounds that suffices comes to the same.
* `Arena.isAsync_spreadAsync_iff`: all rounds.
-/

namespace TypeMapper.Arena

variable {a : Arena} {id t : MappingId} {n k : Nat}

/-! ## 1. One round -/

theorem isAsync_iff : a.isAsync id = true ↔ ∃ m, a.get? id = some m ∧ m.isAsync = true := by
  unfold isAsync
  cases a.get? id <;> simp

/-- The rounds change no call. -/
theorem delegates_asyncRound (a : Arena) : a.asyncRound.Delegates = a.Delegates :=
  delegates_transform (fun _ m => by split <;> rfl) a

theorem delegates_withAsync (a : Arena) (flag : MappingId → Bool) :
    (a.withAsync flag).Delegates = a.Delegates :=
  delegates_transform (f := fun id m => m.withAsync (flag id)) (fun _ _ => rfl) a

theorem delegates_spreadAsync (a : Arena) : a.spreadAsync.Delegates = a.Delegates := by
  rw [spreadAsync_eq, delegates_withAsync]

theorem any_targets_iff {m : Mapping} (hm : a.get? id = some m) :
    m.targets.any a.isAsync = true ↔ ∃ t, a.Delegates id t ∧ a.isAsync t = true := by
  simp only [List.any_eq_true, delegates_iff_of_get? hm]

/-- **What a round does**: a routine is asynchronous behind it if it was so before, or if it calls
one that was. -/
theorem isAsync_asyncRound_iff : a.asyncRound.isAsync id = true ↔
    a.isAsync id = true ∨ ∃ t, a.Delegates id t ∧ a.isAsync t = true := by
  have hget : a.asyncRound.get? id =
      (a.get? id).map fun m => if a.mustFlip m then { m with isAsync := true } else m :=
    get?_transform_of_key (f := fun _ m => if a.mustFlip m then { m with isAsync := true } else m)
      (fun _ m => by split <;> rfl) a id
  cases hm : a.get? id with
  | none =>
      have hno : ∀ t, ¬ a.Delegates id t := fun t ⟨m, hm', _⟩ => by
        rw [hm] at hm'
        cases hm'
      have hbefore : a.isAsync id = false := by rw [isAsync, hm]; rfl
      have hbehind : a.asyncRound.isAsync id = false := by rw [isAsync, hget, hm]; rfl
      simp [hbefore, hbehind, hno]
  | some m =>
      rw [hm, Option.map_some] at hget
      rw [isAsync_of_get? hget, isAsync_of_get? hm, ← any_targets_iff hm]
      cases hflag : m.isAsync <;> cases hany : m.targets.any a.isAsync <;>
        simp [mustFlip, hflag, hany]

/-- Where no flag has to change, the callers of asynchronous routines are asynchronous. -/
theorem isAsync_of_stable (h : a.mappings.any a.mustFlip = false) (hd : a.Delegates id t)
    (ht : a.isAsync t = true) : a.isAsync id = true := by
  have ⟨m, hm, _⟩ := hd
  have hflip : a.mustFlip m = false := by
    have hall := List.any_eq_false.mp h m (mem_mappings_of_get? hm)
    exact Bool.eq_false_iff.mpr hall
  have hany := (any_targets_iff hm).mpr ⟨t, hd, ht⟩
  rw [mustFlip, hany, Bool.and_true, Bool.not_eq_false'] at hflip
  rwa [isAsync_of_get? hm]

theorem isAsync_of_reaches_of_stable (h : a.mappings.any a.mustFlip = false)
    (hreach : a.Reaches id t) (ht : a.isAsync t = true) : a.isAsync id = true := by
  induction hreach using Relation.ReflTransGen.head_induction_on with
  | refl => exact ht
  | head hstep _ ih => exact isAsync_of_stable h hstep ih

/-! ## 2. All rounds -/

/-- **The rounds come to an end**: any number of them that suffices comes to the same. -/
theorem asyncRounds_of_idle_lt (hn : a.idle < n) (hk : a.idle < k) :
    asyncRounds n a = asyncRounds k a := by
  induction n generalizing a k with
  | zero => omega
  | succ n ih =>
      obtain _ | k := k
      · omega
      unfold asyncRounds
      cases hany : a.mappings.any a.mustFlip with
      | false => rfl
      | true =>
          -- a round that changes something leaves fewer routines that are not asynchronous
          have hpos : 0 < a.mappings.countP a.mustFlip :=
            List.countP_pos_iff.mpr (List.any_eq_true.mp hany)
          have hround := idle_asyncRound a
          exact ih (by omega) (by omega)

theorem isAsync_asyncRounds_iff (h : a.idle < n) : (asyncRounds n a).isAsync id = true ↔
    ∃ t, a.Reaches id t ∧ a.isAsync t = true := by
  induction n generalizing a with
  | zero => omega
  | succ n ih =>
      unfold asyncRounds
      cases hany : a.mappings.any a.mustFlip with
      | false =>
          constructor
          · exact fun hid => ⟨id, .refl, hid⟩
          · rintro ⟨t, hreach, ht⟩
            exact isAsync_of_reaches_of_stable hany hreach ht
      | true =>
          have hpos : 0 < a.mappings.countP a.mustFlip :=
            List.countP_pos_iff.mpr (List.any_eq_true.mp hany)
          have hround := idle_asyncRound a
          refine (ih (a := a.asyncRound) (by omega)).trans ?_
          simp only [Reaches, delegates_asyncRound, isAsync_asyncRound_iff]
          constructor
          · rintro ⟨t, hreach, ht | ⟨u, hstep, hu⟩⟩
            · exact ⟨t, hreach, ht⟩
            · exact ⟨u, hreach.tail hstep, hu⟩
          · rintro ⟨t, hreach, ht⟩
            exact ⟨t, hreach, .inl ht⟩

/-- **Where asynchrony spreads to**: a routine ends asynchronous exactly if its calls reach one that
was so at the start, perhaps itself. -/
theorem isAsync_spreadAsync_iff : a.spreadAsync.isAsync id = true ↔
    ∃ t, a.Reaches id t ∧ a.isAsync t = true :=
  isAsync_asyncRounds_iff (Nat.lt_succ_of_le a.idle_le_size)

end TypeMapper.Arena

import TypeMapper.Proofs.Arena.Lookup
import TypeMapper.Resolution
/-!
# The spread of asynchrony

Rounds make callers of asynchronous routines asynchronous until a round changes nothing. They change
the flags alone, and there are as many rounds as it takes.

* `Arena.spreadAsync_eq`: what the rounds change.
* `Arena.any_mustFlip_spreadAsync`: no caller of an asynchronous routine is left over.
* `Arena.spreadAsync_of_stable`: where no flag has to change, none does.
-/

namespace TypeMapper

/-! ## 1. The frame -/

/-- A mapping with another flag. -/
def Mapping.withAsync (m : Mapping) (isAsync : Bool) : Mapping := { m with isAsync := isAsync }

namespace Arena

variable {a : Arena} {id : MappingId} {m : Mapping} {n : Nat}

/-- An arena with other flags. -/
def withAsync (a : Arena) (flag : MappingId → Bool) : Arena :=
  a.transform fun id m => m.withAsync (flag id)

theorem get?_withAsync (a : Arena) (flag : MappingId → Bool) (id : MappingId) :
    (a.withAsync flag).get? id = (a.get? id).map fun m => m.withAsync (flag id) :=
  get?_transform_of_key (f := fun id m => m.withAsync (flag id)) (fun _ _ => rfl) a id

theorem isAsync_of_get? (h : a.get? id = some m) : a.isAsync id = m.isAsync := by
  rw [isAsync, h]
  rfl

theorem withAsync_isAsync (a : Arena) : a.withAsync a.isAsync = a :=
  transform_eq_self fun _ m h => by rw [isAsync_of_get? h]; rfl

theorem asyncRound_withAsync (a : Arena) (flag : MappingId → Bool) :
    a.asyncRound.withAsync flag = a.withAsync flag := by
  unfold asyncRound withAsync
  rw [transform_transform (fun _ m => by split <;> rfl) fun _ _ => by rfl]
  exact transform_congr fun id m _ => by split <;> rfl

/-- The rounds change nothing but the flags. -/
theorem asyncRounds_eq (n : Nat) (a : Arena) :
    asyncRounds n a = a.withAsync (asyncRounds n a).isAsync := by
  induction n generalizing a with
  | zero => exact a.withAsync_isAsync.symm
  | succ n ih =>
      unfold asyncRounds
      split
      · rw [← asyncRound_withAsync]
        exact ih a.asyncRound
      · exact a.withAsync_isAsync.symm

/-- **What the spread changes**: the flag of each mapping. -/
theorem spreadAsync_eq (a : Arena) : a.spreadAsync = a.withAsync a.spreadAsync.isAsync :=
  asyncRounds_eq (a.size + 1) a

/-! ## 2. Enough rounds -/

/-- The number of mappings that are not asynchronous. -/
def idle (a : Arena) : Nat := a.mappings.countP fun m => !m.isAsync

theorem idle_le_size (a : Arena) : a.idle ≤ a.size := a.length_mappings ▸ List.countP_le_length

/-- **A round flips exactly the flags that have to change.** -/
theorem idle_asyncRound (a : Arena) :
    a.asyncRound.idle + a.mappings.countP a.mustFlip = a.idle := by
  rw [idle, idle, asyncRound, mappings_transform fun m => by split <;> rfl, List.countP_map]
  refine countP_split fun m _ => ?_
  rw [Function.comp_apply]
  cases hf : a.mustFlip m with
  | false => simp
  | true =>
      have hm : m.isAsync = false := by
        simp only [mustFlip, Bool.and_eq_true, Bool.not_eq_true'] at hf
        exact hf.1
      simp [hm]

theorem any_mustFlip_asyncRounds (h : a.idle < n) :
    (asyncRounds n a).mappings.any (asyncRounds n a).mustFlip = false := by
  induction n generalizing a with
  | zero => omega
  | succ n ih =>
      unfold asyncRounds
      cases hany : a.mappings.any a.mustFlip with
      | false => exact hany
      | true =>
          have hpos : 0 < a.mappings.countP a.mustFlip :=
            List.countP_pos_iff.mpr (List.any_eq_true.mp hany)
          have hround := idle_asyncRound a
          exact ih (by omega)

/-- **The rounds suffice**: no caller of an asynchronous routine is left over. -/
theorem any_mustFlip_spreadAsync (a : Arena) :
    a.spreadAsync.mappings.any a.spreadAsync.mustFlip = false :=
  any_mustFlip_asyncRounds (Nat.lt_succ_of_le a.idle_le_size)

theorem spreadAsync_of_stable (h : a.mappings.any a.mustFlip = false) : a.spreadAsync = a := by
  unfold spreadAsync asyncRounds
  rw [h]
  rfl

end Arena

end TypeMapper

import Mathlib.Algebra.GroupWithZero.Nat
import Mathlib.Algebra.Order.BigOperators.Group.List
import Mathlib.Algebra.Order.Group.Nat
import Mathlib.Logic.Relation
import TypeMapper.Proofs.Arena.Lookup
/-!
# Reaching mappings through delegates

A mapping delegates to the targets of its bound calls. The depth-first walk from a mapping visits
what it reaches in any number of such steps, and nothing else.

* `Arena.Delegates`, `Arena.Reaches`: one step, and any number of steps.
* `Arena.Walked`: the INVARIANT of the walk: what is visited or waits is reached, and the targets of
  what is visited are visited or wait.
* `Arena.mem_reachable_iff`: the walk visits exactly what is reached.
* `Arena.visit_of_lt`: its bound does not cut it short.
-/

namespace TypeMapper.Arena

variable {a b : Arena} {id root t x : MappingId} {m : Mapping} {seen stack : List MappingId}

/-! ## 1. Steps -/

/-- The mapping of an id has a bound call with the target `t`. -/
def Delegates (a : Arena) (id t : MappingId) : Prop := ∃ m, a.get? id = some m ∧ t ∈ m.targets

/-- From the mapping of an id one gets to `t` in any number of steps. -/
abbrev Reaches (a : Arena) : MappingId → MappingId → Prop := Relation.ReflTransGen a.Delegates

theorem mem_targets_iff : t ∈ m.targets ↔ ∃ c ∈ m.delegates, c.target = some t := by
  rw [Mapping.targets, Mapping.mem_firsts, List.mem_filterMap]

theorem delegates_iff_of_get? (h : a.get? id = some m) : a.Delegates id t ↔ t ∈ m.targets :=
  ⟨fun ⟨_, hn, ht⟩ => Option.some.inj (h.symm.trans hn) ▸ ht, fun ht => ⟨m, h, ht⟩⟩

/-- A mapping without targets reaches itself only. -/
theorem eq_of_reaches (h : a.get? id = some m) (hnil : m.targets = []) (ht : a.Reaches id t) :
    t = id := by
  rcases ht.cases_head with rfl | ⟨x, hx, -⟩
  · rfl
  · rw [delegates_iff_of_get? h, hnil] at hx
    exact absurd hx List.not_mem_nil

/-- The targets of the mapping of an id; there are none if there is no such mapping. -/
def targetsOf (a : Arena) (id : MappingId) : List MappingId :=
  ((a.get? id).map Mapping.targets).getD []

theorem mem_targetsOf_iff : t ∈ a.targetsOf id ↔ a.Delegates id t := by
  unfold targetsOf Delegates
  cases a.get? id <;> simp

theorem targets_of_properties {n : Mapping} (h : m.properties = n.properties) :
    m.targets = n.targets := by
  rw [Mapping.targets, Mapping.targets, Mapping.delegates, Mapping.delegates, Mapping.strategies,
    Mapping.strategies, h]

/-- A change that keeps the properties of every mapping keeps the steps. -/
theorem delegates_transform {f : MappingId → Mapping → Mapping}
    (hf : ∀ id m, (f id m).properties = m.properties) (a : Arena) :
    (a.transform f).Delegates = a.Delegates := by
  have h : ∀ i, (a.transform f).targetsOf i = a.targetsOf i := fun i => by
    rw [targetsOf, targetsOf, get?_transform, Option.map_map]
    cases a.get? i with
    | none => rfl
    | some m => exact targets_of_properties (hf i m)
  funext i t
  rw [← mem_targetsOf_iff, ← mem_targetsOf_iff, h]

/-! ## 2. The walk -/

theorem visit_seen {n : Nat} (h : x ∈ seen) :
    a.visit (n + 1) seen (x :: stack) = a.visit n seen stack :=
  if_pos (List.contains_iff_mem.mpr h)

theorem visit_new {n : Nat} (h : x ∉ seen) : a.visit (n + 1) seen (x :: stack) =
    a.visit n (x :: seen) ((a.targetsOf x).filter (fun t => !(x :: seen).contains t) ++ stack) :=
  if_neg fun hx => h (List.contains_iff_mem.mp hx)

/-- **The invariant of the walk** from `root`. -/
structure Walked (a : Arena) (root : MappingId) (seen stack : List MappingId) : Prop where
  sound : ∀ x ∈ seen ++ stack, a.Reaches root x
  root : root ∈ seen ++ stack
  closed : ∀ x ∈ seen, ∀ t, a.Delegates x t → t ∈ seen ++ stack

theorem walked_start (a : Arena) (root : MappingId) : Walked a root [] [root] where
  sound x hx := by
    rw [List.nil_append, List.mem_singleton] at hx
    exact hx ▸ .refl
  root := List.mem_singleton_self root
  closed x hx := absurd hx List.not_mem_nil

/-- What was visited before can be dropped from the stack. -/
theorem Walked.drop (h : Walked a root seen (x :: stack)) (hx : x ∈ seen) :
    Walked a root seen stack := by
  have hsub : ∀ y, y ∈ seen ++ x :: stack ↔ y ∈ seen ++ stack := fun y => by
    simp only [List.mem_append, List.mem_cons]
    constructor
    · rintro (hy | rfl | hy)
      · exact Or.inl hy
      · exact Or.inl hx
      · exact Or.inr hy
    · exact Or.imp_right Or.inr
  exact ⟨fun y hy => h.sound y ((hsub y).mpr hy), (hsub root).mp h.root,
    fun y hy t ht => (hsub t).mp (h.closed y hy t ht)⟩

/-- **A visit keeps the invariant**: its targets are put on the stack. -/
theorem Walked.visit (h : Walked a root seen (x :: stack)) : Walked a root (x :: seen)
    ((a.targetsOf x).filter (fun t => !(x :: seen).contains t) ++ stack) := by
  have hx : a.Reaches root x := h.sound x (List.mem_append_right _ List.mem_cons_self)
  have hkeep : ∀ y ∈ seen ++ x :: stack, y ∈ (x :: seen) ++
      ((a.targetsOf x).filter (fun t => !(x :: seen).contains t) ++ stack) := fun y hy => by
    simp only [List.mem_append, List.mem_cons] at hy ⊢
    rcases hy with hy | rfl | hy
    · exact Or.inl (Or.inr hy)
    · exact Or.inl (Or.inl rfl)
    · exact Or.inr (Or.inr hy)
  refine ⟨fun y hy => ?_, hkeep root h.root, fun y hy t ht => ?_⟩
  · simp only [List.mem_append, List.mem_cons, List.mem_filter] at hy
    rcases hy with (rfl | hy) | ⟨hy, -⟩ | hy
    · exact hx
    · exact h.sound y (List.mem_append_left _ hy)
    · exact hx.tail (mem_targetsOf_iff.mp hy)
    · exact h.sound y (List.mem_append_right _ (List.mem_cons_of_mem _ hy))
  · rcases List.mem_cons.mp hy with rfl | hy
    · by_cases hseen : t ∈ y :: seen
      · exact List.mem_append_left _ hseen
      · refine List.mem_append_right _ (List.mem_append_left _ (List.mem_filter.mpr
          ⟨mem_targetsOf_iff.mpr ht, ?_⟩))
        simpa using hseen
    · exact hkeep t (h.closed y hy t ht)

/-- A walk with an empty stack has visited exactly what is reached. -/
theorem Walked.mem_iff (h : Walked a root seen []) : t ∈ seen ↔ a.Reaches root t := by
  constructor
  · exact fun ht => h.sound t (List.mem_append_left _ ht)
  · intro ht
    induction ht with
    | refl => exact List.append_nil seen ▸ h.root
    | tail _ hstep ih => exact List.append_nil seen ▸ h.closed _ ih _ hstep

/-! ## 3. Enough steps -/

theorem sum_add_le_of_mem {α : Type} {f g : α → Nat} {k : Nat} {xs : List α} {y : α} (hy : y ∈ xs)
    (hle : ∀ x, f x ≤ g x) (hk : f y + k ≤ g y) : (xs.map f).sum + k ≤ (xs.map g).sum := by
  induction xs with
  | nil => cases hy
  | cons x xs ih =>
      have hx := hle x
      simp only [List.map_cons, List.sum_cons]
      rcases List.mem_cons.mp hy with rfl | hy
      · have hxs : (xs.map f).sum ≤ (xs.map g).sum := List.sum_le_sum fun z _ => hle z
        omega
      · have hxs := ih hy
        omega

/-- The number of targets of mappings that are not visited yet. -/
def unseenTargets (a : Arena) (seen : List MappingId) : Nat :=
  (a.entries.map fun p => if p.1 ∈ seen then 0 else p.2.targets.length).sum

/-- A visit puts no more ids on the stack than there are fewer unseen targets. -/
theorem unseenTargets_visit (h : x ∉ seen) :
    a.unseenTargets (x :: seen) + (a.targetsOf x).length ≤ a.unseenTargets seen := by
  have hle : ∀ p : MappingId × Mapping, (if p.1 ∈ x :: seen then 0 else p.2.targets.length)
      ≤ if p.1 ∈ seen then 0 else p.2.targets.length := fun p => by
    by_cases hp : p.1 ∈ seen
    · rw [if_pos hp, if_pos (List.mem_cons_of_mem _ hp)]
    · rw [if_neg hp]
      split
      · exact Nat.zero_le _
      · exact Nat.le_refl _
  cases hx : a.get? x with
  | none =>
      have e : a.targetsOf x = [] := by rw [targetsOf, hx]; rfl
      rw [e, List.length_nil]
      exact List.sum_le_sum fun p _ => hle p
  | some m =>
      have e : a.targetsOf x = m.targets := by rw [targetsOf, hx]; rfl
      refine sum_add_le_of_mem (y := (x, m)) (mem_entries_iff.mpr hx) hle ?_
      rw [if_pos List.mem_cons_self, if_neg h, e, Nat.zero_add]

/-- **The walk visits exactly what is reached**, if it is allowed one step for each id on the stack,
one for each unseen target and one to find the stack empty. -/
theorem mem_visit_iff {n : Nat} (h : Walked a root seen stack)
    (hn : stack.length + a.unseenTargets seen < n) :
    t ∈ a.visit n seen stack ↔ a.Reaches root t := by
  induction n generalizing seen stack with
  | zero => omega
  | succ n ih =>
      cases stack with
      | nil =>
          show t ∈ seen.reverse ↔ _
          rw [List.mem_reverse]
          exact h.mem_iff
      | cons x stack =>
          rw [List.length_cons] at hn
          by_cases hx : x ∈ seen
          · rw [visit_seen hx]
            exact ih (h.drop hx) (by omega)
          · have hopen := unseenTargets_visit (a := a) hx
            have hlen := List.length_filter_le (fun t => !(x :: seen).contains t) (a.targetsOf x)
            rw [visit_new hx]
            refine ih h.visit ?_
            rw [List.length_append]
            omega

theorem visitBound_eq (a : Arena) : a.visitBound = 2 + a.unseenTargets [] := by
  have h : a.unseenTargets [] = ((a.entries.map Prod.snd).map fun m => m.targets.length).sum := by
    simp [unseenTargets, Function.comp_def]
  rw [h, map_snd_entries, visitBound, List.sum, List.foldr_map]

/-- **The bound never cuts a walk short**: a walk that is allowed more steps is the same walk. -/
theorem visit_of_lt {n k : Nat} (hn : stack.length + a.unseenTargets seen < n)
    (hk : stack.length + a.unseenTargets seen < k) : a.visit n seen stack = a.visit k seen stack := by
  induction n generalizing seen stack k with
  | zero => omega
  | succ n ih =>
      obtain ⟨k, rfl⟩ : ∃ j, k = j + 1 := ⟨k - 1, by omega⟩
      cases stack with
      | nil => rfl
      | cons x stack =>
          rw [List.length_cons] at hn hk
          by_cases hx : x ∈ seen
          · rw [visit_seen hx, visit_seen hx]
            exact ih (by omega) (by omega)
          · have hopen := unseenTargets_visit (a := a) hx
            have hlen := List.length_filter_le (fun t => !(x :: seen).contains t) (a.targetsOf x)
            rw [visit_new hx, visit_new hx]
            refine ih ?_ ?_ <;> rw [List.length_append] <;> omega

/-- What is listed for a mapping, by a walk of any number of steps that suffices. -/
theorem reachable_eq {n : Nat} (h : 1 + a.unseenTargets [] < n) :
    a.reachable id = a.visit n [] [id] := by
  refine visit_of_lt ?_ h
  rw [visitBound_eq, List.length_singleton]
  omega

/-- **The ids that are listed for a mapping are those that it reaches.** -/
theorem mem_reachable_iff : t ∈ a.reachable id ↔ a.Reaches id t := by
  refine mem_visit_iff (walked_start a id) ?_
  rw [visitBound_eq, List.length_singleton]
  omega

end TypeMapper.Arena

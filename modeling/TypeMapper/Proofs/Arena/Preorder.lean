import Mathlib.Data.List.Basic
import Mathlib.Logic.Function.Iterate
import TypeMapper.Proofs.Arena.Reachability
/-!
# The order of the walk

The walk keeps the ids that wait on a stack. An id may wait there several times, and it counts as
visited only when it is taken, so an id that was put down early may be visited late or be taken a
second time. What comes out all the same is the order of the recursive walk, in which a mapping is
followed by everything below its first target, then by what is below the second one and not visited
yet, and so on. Rings of delegates, and mappings that delegate to themselves, do not keep it going.

* `Arena.turn`: one turn of the loop; `visit_eq_iterate`: the walk takes turns.
* `Arena.stack_iterate_turn`: enough turns leave nothing waiting.
* `Arena.DepthFirst`: the recursive walk; `exists_depthFirst`: it ends.
* `DepthFirst.turns`: the turns that come to a part of the recursive walk.
* `Arena.reachable_preorder`: the walk from a mapping.
-/

namespace TypeMapper.Arena

variable {a : Arena} {id t x : MappingId} {seen stack ts out : List MappingId}

/-! ## 1. Turns -/

/-- One turn of the loop, on the ids that are visited, the last one first, and those that wait. An
id that is taken from the stack is dropped if it was visited; otherwise it is visited now, and
those of its targets that were not are put on the stack. With nothing waiting nothing changes. -/
def turn (a : Arena) : List MappingId × List MappingId → List MappingId × List MappingId
  | (seen, []) => (seen, [])
  | (seen, x :: stack) =>
    if x ∈ seen then (seen, stack)
    else (x :: seen, (a.targetsOf x).filter (fun t => !(x :: seen).contains t) ++ stack)

theorem turn_seen (h : x ∈ seen) : a.turn (seen, x :: stack) = (seen, stack) := if_pos h

theorem turn_new (h : x ∉ seen) : a.turn (seen, x :: stack) =
    (x :: seen, (a.targetsOf x).filter (fun t => !(x :: seen).contains t) ++ stack) := if_neg h

/-- With nothing waiting all further turns change nothing. -/
theorem iterate_turn_nil (n : Nat) : a.turn^[n] (seen, []) = (seen, []) :=
  Function.iterate_fixed rfl n

/-- **A walk that is allowed `n` steps takes `n` turns.** -/
theorem visit_eq_iterate (n : Nat) :
    a.visit n seen stack = (a.turn^[n] (seen, stack)).1.reverse := by
  induction n generalizing seen stack with
  | zero => rfl
  | succ n ih =>
      cases stack with
      | nil =>
          rw [iterate_turn_nil]
          rfl
      | cons x stack =>
          rw [Function.iterate_succ_apply]
          by_cases hx : x ∈ seen
          · rw [visit_seen hx, turn_seen hx, ih]
          · rw [visit_new hx, turn_new hx, ih]

/-- **Enough turns leave nothing waiting**: one for each id on the stack and one for each unseen
target. -/
theorem stack_iterate_turn {n : Nat} (h : stack.length + a.unseenTargets seen ≤ n) :
    (a.turn^[n] (seen, stack)).2 = [] := by
  induction n generalizing seen stack with
  | zero =>
      show stack = []
      exact List.eq_nil_of_length_eq_zero (by omega)
  | succ n ih =>
      cases stack with
      | nil => rw [iterate_turn_nil]
      | cons x stack =>
          rw [List.length_cons] at h
          rw [Function.iterate_succ_apply]
          by_cases hx : x ∈ seen
          · rw [turn_seen hx]
            exact ih (by omega)
          · have hopen := unseenTargets_visit (a := a) hx
            have hlen := List.length_filter_le (fun t => !(x :: seen).contains t) (a.targetsOf x)
            rw [turn_new hx]
            refine ih ?_
            rw [List.length_append]
            omega

/-! ## 2. The recursive walk -/

/-- **The recursive walk**: from the ids `seen`, which were visited before, it goes through the ids
`ts` one after the other and visits the ids `out`, in this order. An id that was visited is left
out; any other one is visited, and before the walk goes on it goes through its targets in their
order. -/
inductive DepthFirst (a : Arena) : List MappingId → List MappingId → List MappingId → Prop
  | done {seen : List MappingId} : DepthFirst a seen [] []
  | known {seen ts out : List MappingId} {t : MappingId} :
    t ∈ seen → DepthFirst a seen ts out → DepthFirst a seen (t :: ts) out
  | new {seen ts down on : List MappingId} {t : MappingId} :
    t ∉ seen → DepthFirst a (t :: seen) (a.targetsOf t) down →
      DepthFirst a (down.reverse ++ t :: seen) ts on →
      DepthFirst a seen (t :: ts) (t :: (down ++ on))

/-- More visited ids leave fewer unseen targets. -/
theorem unseenTargets_append_le (more : List MappingId) :
    a.unseenTargets (more ++ seen) ≤ a.unseenTargets seen := by
  refine List.sum_le_sum fun p _ => ?_
  split
  · exact Nat.zero_le _
  · rename_i hp
    rw [if_neg fun h => hp (List.mem_append_right _ h)]

/-- **The recursive walk ends**, whatever circles there are: a visit uses up the targets of what it
visits. -/
theorem exists_depthFirst (a : Arena) (seen ts : List MappingId) :
    ∃ out, a.DepthFirst seen ts out := by
  induction h : ts.length + a.unseenTargets seen using Nat.strong_induction_on
    generalizing seen ts with
  | _ n ih =>
      cases ts with
      | nil => exact ⟨[], .done⟩
      | cons t ts =>
          rw [List.length_cons] at h
          by_cases ht : t ∈ seen
          · obtain ⟨out, hout⟩ := ih _ (by omega) seen ts rfl
            exact ⟨out, .known ht hout⟩
          · have hopen := unseenTargets_visit (a := a) ht
            obtain ⟨down, hdown⟩ := ih _ (by omega) (t :: seen) (a.targetsOf t) rfl
            have hless : a.unseenTargets (down.reverse ++ t :: seen) ≤ a.unseenTargets seen :=
              (unseenTargets_append_le _).trans (unseenTargets_append_le [t])
            obtain ⟨on, hon⟩ := ih _ (by omega) (down.reverse ++ t :: seen) ts rfl
            exact ⟨_, .new ht hdown hon⟩

namespace DepthFirst

/-- **No id is visited twice**, nor is one that was visited before. -/
theorem nodup (h : a.DepthFirst seen ts out) : out.Nodup ∧ ∀ x ∈ out, x ∉ seen := by
  induction h with
  | done => exact ⟨List.nodup_nil, nofun⟩
  | known _ _ ih => exact ih
  | @new seen ts down on t ht _ _ ihdown ihon =>
      obtain ⟨hdown, hdownNew⟩ := ihdown
      obtain ⟨hon, honNew⟩ := ihon
      have honSeen : ∀ x ∈ on, x ∉ down ∧ x ≠ t ∧ x ∉ seen := fun x hx => by
        simpa [not_or] using honNew x hx
      constructor
      · refine List.nodup_cons.mpr ⟨fun hmem => ?_, List.nodup_append.mpr ⟨hdown, hon, ?_⟩⟩
        · rcases List.mem_append.mp hmem with hmem | hmem
          · exact hdownNew t hmem List.mem_cons_self
          · exact (honSeen t hmem).2.1 rfl
        · rintro x hx _ hx' rfl
          exact (honSeen x hx').1 hx
      · intro x hx
        rcases List.mem_cons.mp hx with rfl | hx
        · exact ht
        · rcases List.mem_append.mp hx with hx | hx
          · exact fun hseen => hdownNew x hx (List.mem_cons_of_mem t hseen)
          · exact (honSeen x hx).2.2

/-- **The turns that come to a part of the recursive walk.** The ids it goes through lie on the
stack, above others that wait for its end; some of them may be missing there if they were visited
when they would have been put down, as they are visited still. -/
theorem turns (h : a.DepthFirst seen ts out) {earlier : List MappingId} (hearlier : earlier ⊆ seen)
    (stack : List MappingId) : ∃ n,
      a.turn^[n] (seen, ts.filter (fun t => !earlier.contains t) ++ stack) =
        (out.reverse ++ seen, stack) := by
  induction h generalizing earlier stack with
  | done => exact ⟨0, rfl⟩
  | @known seen ts out t ht _ ih =>
      obtain ⟨n, hn⟩ := ih hearlier stack
      by_cases hte : t ∈ earlier
      · rw [List.filter_cons_of_neg (by simpa using hte)]
        exact ⟨n, hn⟩
      · rw [List.filter_cons_of_pos (by simpa using hte), List.cons_append]
        refine ⟨n + 1, ?_⟩
        rw [Function.iterate_succ_apply, turn_seen ht, hn]
  | @new seen ts down on t ht _ _ ihdown ihon =>
      have hte : t ∉ earlier := fun hmem => ht (hearlier hmem)
      have hkeep : earlier ⊆ down.reverse ++ t :: seen := fun x hx =>
        List.mem_append_right _ (List.mem_cons_of_mem t (hearlier hx))
      obtain ⟨n, hn⟩ := ihdown (List.Subset.refl _)
        (ts.filter (fun t => !earlier.contains t) ++ stack)
      obtain ⟨k, hk⟩ := ihon hkeep stack
      refine ⟨k + (n + 1), ?_⟩
      rw [List.filter_cons_of_pos (by simpa using hte), List.cons_append,
        Function.iterate_add_apply, Function.iterate_succ_apply, turn_new ht, hn, hk]
      simp

/-- The recursive walk from one id starts with it. -/
theorem head?_eq (h : a.DepthFirst [] [id] out) : out.head? = some id := by
  cases h with
  | known hmem _ => exact absurd hmem List.not_mem_nil
  | new _ _ _ => rfl

end DepthFirst

/-! ## 3. The walk from a mapping -/

/-- **The ids that are listed for a mapping.** -/
structure Preorders (a : Arena) (id : MappingId) (ids : List MappingId) : Prop where
  /-- The loop ends: after so many turns nothing waits, and the ids are what was visited. -/
  ends : a.turn^[a.visitBound] ([], [id]) = (ids.reverse, [])
  /-- They are the ids of the recursive walk, which ends too, and in its order. -/
  recursive : ∀ out, a.DepthFirst [] [id] out ↔ out = ids
  first : ids.head? = some id
  once : ids.Nodup
  reached : ∀ t, t ∈ ids ↔ a.Reaches id t

/-- The loop ends with the ids that are listed. -/
theorem turn_visitBound (a : Arena) (id : MappingId) :
    a.turn^[a.visitBound] ([], [id]) = ((a.reachable id).reverse, []) := by
  have hstack : (a.turn^[a.visitBound] ([], [id])).2 = [] := stack_iterate_turn (by
    rw [visitBound_eq, List.length_singleton]
    omega)
  refine Prod.ext ?_ hstack
  rw [reachable, visit_eq_iterate, List.reverse_reverse]

/-- **The recursive walk from a mapping visits the ids that are listed.** -/
theorem DepthFirst.eq_reachable (h : a.DepthFirst [] [id] out) : out = a.reachable id := by
  obtain ⟨n, hn⟩ := h.turns (List.Subset.refl []) []
  have hn : a.turn^[n] ([], [id]) = (out.reverse, []) := by simpa using hn
  -- neither the loop nor the recursive walk goes on where the other one has come to its end
  have hboth : (out.reverse, ([] : List MappingId)) = ((a.reachable id).reverse, []) :=
    calc (out.reverse, [])
        = a.turn^[a.visitBound] (a.turn^[n] ([], [id])) := by rw [hn, iterate_turn_nil]
      _ = a.turn^[n] (a.turn^[a.visitBound] ([], [id])) := by
          rw [← Function.iterate_add_apply, Nat.add_comm, Function.iterate_add_apply]
      _ = ((a.reachable id).reverse, []) := by rw [turn_visitBound, iterate_turn_nil]
  exact List.reverse_injective (congrArg Prod.fst hboth)

/-- **The walk from a mapping** ends, and lists what the mapping reaches in the order of the
recursive walk: the mapping first, every id once. -/
theorem reachable_preorder (a : Arena) (id : MappingId) : a.Preorders id (a.reachable id) := by
  obtain ⟨out, hout⟩ := exists_depthFirst a [] [id]
  obtain rfl := hout.eq_reachable
  exact {
    ends := turn_visitBound a id
    recursive := fun _ => ⟨DepthFirst.eq_reachable, fun h => h ▸ hout⟩
    first := hout.head?_eq
    once := hout.nodup.1
    reached := fun _ => mem_reachable_iff }

end TypeMapper.Arena

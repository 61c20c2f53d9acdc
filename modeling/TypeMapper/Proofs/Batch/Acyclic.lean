import Mathlib.Order.WellFounded
import TypeMapper.Proofs.Batch.Rejection
/-!
# Bound calls run in no circle

Nothing checks that mappings do not call each other in a circle. A call is bound to another mapping
only once that mapping has all its own calls bound, so what is bound is bound in an order; the
phases behind resolution change no call. In the end the only circles are mappings that call
themselves.

* `Arena.HandsOver`: a mapping has a bound call to another one.
* `Arena.resolvable_of_handsOver`: the other one is resolvable.
* `Arena.wellFounded_handsOver_resolve`: resolution leaves no infinite row of such calls.
* `Batch.handsOver_acyclic`: and so no circle in what a batch comes to, accepted or not.
-/

namespace TypeMapper

/-! ## 1. After resolution -/

namespace Arena

variable {a : Arena} {id t : MappingId}

/-- The mapping of an id has a bound call to another mapping. -/
def HandsOver (a : Arena) (id t : MappingId) : Prop := a.Delegates id t ∧ t ≠ id

/-- A bound call of a resolved arena comes from a call of the arena before, and settles there. -/
theorem settles_of_delegates (h : a.SelfBound) (hd : a.resolve.1.Delegates id t) :
    ∃ m, a.get? id = some m ∧ ∃ d ∈ m.delegates, a.Settles id d t := by
  obtain ⟨g, hg, hr⟩ := resolve_eq h
  obtain ⟨n, hn, ht⟩ := hd
  obtain ⟨c, hc, hct⟩ := mem_targets_iff.mp ht
  rw [get?_resolve hr, Option.map_eq_some_iff] at hn
  obtain ⟨m, hm, rfl⟩ := hn
  obtain ⟨d, hd, rfl⟩ := List.mem_map.mp (Mapping.delegates_mapDelegates (g id) m ▸ hc)
  exact ⟨m, hm, d, hd, hg.sound id m hm d hd t hct⟩

/-- **What another mapping hands over to is resolvable.** -/
theorem resolvable_of_handsOver (h : a.SelfBound) (ho : a.resolve.1.HandsOver id t) :
    a.Resolvable t := by
  obtain ⟨-, -, -, -, -, hor⟩ := settles_of_delegates h ho.1
  exact hor.resolve_left ho.2

/-- From a resolvable mapping every row of calls to other mappings comes to an end. -/
theorem acc_of_resolvable (h : a.SelfBound) (hr : a.Resolvable id) :
    Acc (fun t id => a.resolve.1.HandsOver id t) id := by
  -- the induction is on why the mapping is resolvable: because those that it calls are
  induction hr with
  | @intro id m hm _ _ ih =>
      refine .intro id fun t ho => ?_
      obtain ⟨n, hn, d, hd, hf, -⟩ := settles_of_delegates h ho.1
      obtain rfl := Option.some.inj (hm.symm.trans hn)
      exact ih d hd t hf ho.2

/-- **Resolution leaves no infinite row of calls to other mappings.** -/
theorem wellFounded_handsOver_resolve (h : a.SelfBound) :
    WellFounded fun t id => a.resolve.1.HandsOver id t :=
  ⟨fun id => .intro id fun _ ho => acc_of_resolvable h (resolvable_of_handsOver h ho)⟩

theorem delegates_rejectRounds (n : Nat) (a : Arena) :
    (rejectRounds n a).1.Delegates = a.Delegates := by
  induction n generalizing a with
  | zero => rfl
  | succ n ih =>
      unfold rejectRounds
      split
      · rfl
      · exact (ih a.rejectRound).trans (delegates_rejectRound a)

end Arena

/-! ## 2. After all phases -/

namespace Batch

variable (s : Schema) (c : Config)

/-- The phases behind resolution change no call. -/
theorem delegates_discover :
    (discover s c).arena.Delegates = (s.resolved c).Delegates := by
  rw [discover_arena, Arena.rejectDelegates, Arena.delegates_rejectRounds, Schema.checked,
    Arena.checkAll, Arena.delegates_transform, Arena.parameterize, Arena.delegates_transform]
  -- neither entry parameters nor the findings of the check are properties
  all_goals exact fun _ _ => rfl

theorem wellFounded_handsOver : WellFounded fun t id => (discover s c).arena.HandsOver id t := by
  have h := Arena.wellFounded_handsOver_resolve (s.selfBound_built c)
  simp only [Arena.HandsOver, delegates_discover] at h ⊢
  exact h

/-- **Bound calls run in no circle** but those of mappings that call themselves: from no mapping of
a batch one gets back to it by calls that each go to another mapping. -/
theorem handsOver_acyclic (id : MappingId) :
    ¬ Relation.TransGen (discover s c).arena.HandsOver id id := fun h =>
  (wellFounded_handsOver s c).transGen.irrefl.irrefl id (Relation.transGen_swap.mpr h)

/-- A tree of nodes with an owner, and two types that hold each other. -/
def forestSchema : Schema :=
  Schema.ofLists
    [type "model::Node" [("parent", "model::Node"), ("owner", "model::User")] (some "view::Node"),
      type "model::User" [] (some "view::User"),
      type "model::Left" [("other", "model::Right")] (some "view::Left"),
      type "model::Right" [("other", "model::Left")] (some "view::Right"),
      type "view::Node" [("parent", "view::Node"), ("owner", "view::User")] none,
      type "view::User" [] none, type "view::Left" [("other", "view::Right")] none,
      type "view::Right" [("other", "view::Left")] none] []
where
  /-- A type that holds others. -/
  type (path : String) (parts : List (String × String)) (view : Option String) : TypeDecl :=
    ⟨path, none, false, true, parts.map fun p => ⟨p.1, .object p.2 true, false, ⟨true, true⟩, []⟩,
      view.toList.map fun d => ⟨.mapTo d, none⟩, []⟩

/-- A node calls itself and its owner; the calls between left and right stay unbound. -/
example : (discover forestSchema Config.standard).arena.entries.map
      (fun p => (p.2.source, p.2.targets)) =
    [("model::Left", []), ("model::Node", [1, 3]), ("model::Right", []), ("model::User", [])] := by
  decide +kernel

end Batch

end TypeMapper

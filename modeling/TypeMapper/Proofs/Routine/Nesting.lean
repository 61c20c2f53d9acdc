import TypeMapper.Proofs.Routine.Modules
import TypeMapper.Proofs.Routine.ProjectionLayout
/-!
# How deeply literals nest in a projection

A projection writes out the literals of other mappings in place, and these do the same one level
deeper. A literal is written out only at a depth that its own mapping allows; below it the default
stands. Slots, containers and chains add no literal to those that the calls in them come to.

* `Value.inlinings`: the literals that are written out in an expression, with their depths.
* `Arena.Allows`: a mapping allows a literal of it at a depth.
* `Inliner.Lays.inlines`: a value that is laid out, if each call is written out as wanted.
* `Emitter.keeps_allows`: literals.
* `Emitter.module_inlines`: the projection in a module.
-/

namespace TypeMapper

/-! ## 1. Literals in expressions -/

namespace Value

mutual

/-- The literals that are written out in an expression: each the mapping and the depth. -/
def inlinings : Value → List (MappingId × Nat)
  | present v => inlinings v
  | orStandard v => inlinings v
  | required v => inlinings v
  | cases _ _ v otherwise => inlinings v ++ inlinings otherwise
  | mapped _ _ v => inlinings v
  | chained _ _ v => inlinings v
  | each _ _ v _ _ => inlinings v
  | entries _ _ _ k v _ _ => inlinings k ++ inlinings v
  | tuple vs => inliningsOf vs
  | inlined target depth _ _ v => (target, depth) :: inlinings v
  | construct _ fields _ => fieldInlinings fields
  | _ => []

/-- The literals in expressions. -/
def inliningsOf : List Value → List (MappingId × Nat)
  | [] => []
  | v :: rest => inlinings v ++ inliningsOf rest

/-- The literals in fields. -/
def fieldInlinings : List (String × Value) → List (MappingId × Nat)
  | [] => []
  | (_, v) :: rest => inlinings v ++ fieldInlinings rest

end

variable {Q : MappingId → Nat → Prop}

/-- All literals that are written out in an expression are as wanted. -/
def Inlines (Q : MappingId → Nat → Prop) (v : Value) : Prop := ∀ i ∈ v.inlinings, Q i.1 i.2

theorem inlines_of_nil {v : Value} (h : v.inlinings = []) : v.Inlines Q := by
  intro i hi
  rw [h] at hi
  exact absurd hi List.not_mem_nil

theorem inlines_entries {p : Place} {kb vb : String} {k v : Value} {target : MapKind}
    {g : Gathering} (hk : k.Inlines Q) (hv : v.Inlines Q) :
    (entries p kb vb k v target g).Inlines Q := by
  intro i hi
  rcases List.mem_append.mp hi with hi | hi
  · exact hk i hi
  · exact hv i hi

theorem inlines_construct {type : PathSpelling} {fields : List (String × Value)} {isOpen : Bool}
    (h : ∀ f ∈ fields, f.2.Inlines Q) : (construct type fields isOpen).Inlines Q := by
  show ∀ i ∈ fieldInlinings fields, Q i.1 i.2
  induction fields with
  | nil => exact fun i hi => absurd hi List.not_mem_nil
  | cons f fields ih =>
      rw [List.forall_mem_cons] at h
      intro i hi
      rcases List.mem_append.mp hi with hi | hi
      · exact h.1 i hi
      · exact ih h.2 i hi

theorem inlines_inlined {t : MappingId} {depth : Nat} {binding : String} {p : Place} {v : Value}
    (ht : Q t depth) (hv : v.Inlines Q) : (inlined t depth binding p v).Inlines Q := by
  intro i hi
  rcases List.mem_cons.mp hi with rfl | hi
  · exact ht
  · exact hv i hi

end Value

open Value

/-! ## 2. Values -/

/-- **A value that is laid out** holds the literals that its calls are written out as. -/
theorem Inliner.Lays.inlines {Q : MappingId → Nat → Prop} {inline : Inliner} {S : List DelegateCall}
    {root : String} {us : List (Option DelegateCall)} {v : Value} (h : inline.Lays S root us v)
    (hi : ∀ c p, Gives (Inlines Q) (inline c p)) : v.Inlines Q := by
  induction h with
  | read | copies | tupleNil => exact inlines_of_nil rfl
  | call _ hv => exact hi _ _ _ hv
  | present _ ih | orStandard _ ih | required _ ih => exact ih
  | mapped _ _ _ ih | chained _ _ _ ih | each _ _ _ _ ih => exact ih
  | entries _ _ _ _ _ _ ihk ihv => exact inlines_entries ihk ihv
  | tupleCons _ _ ihv ihvs =>
      exact fun i hi => (List.mem_append.mp hi).elim (ihv i) (ihvs i)

/-! ## 3. Literals -/

/-- The mapping of an id allows its literal at a depth. -/
def Arena.Allows (a : Arena) (id : MappingId) (depth : Nat) : Prop :=
  ∃ m, a.get? id = some m ∧ depth ≤ m.maxRecursionDepth.toNat

namespace Emitter

variable {e : Emitter}

/-- **Literals hold others only at depths that their mappings allow.** -/
theorem keeps_allows : e.Keeps (Inlines e.arena.Allows) where
  standard := inlines_of_nil rfl
  construct _ _ _ := inlines_construct
  lays _ _ _ _ _ h := h.inlines
  inlined _ k _ _ _ _ hk hle := inlines_inlined ⟨k, hk, hle⟩

/-- **The projection in a module** holds literals only at depths that their mappings allow. -/
theorem module_inlines : Gives (fun k : MappingModule => ∀ r ∈ k.projection,
    r.body.Inlines e.arena.Allows) e.module := by
  refine module_holds.imp fun k hk r hr => ?_
  exact keeps_allows.literalFrom _ _ _ _ _ (projection_parts r (hk.projection r hr)).body

end Emitter

end TypeMapper

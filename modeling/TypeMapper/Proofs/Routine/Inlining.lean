import Mathlib.Logic.Relation
import TypeMapper.Proofs.Routine.Modules
import TypeMapper.Proofs.Routine.Projection
import TypeMapper.Proofs.Routine.ProjectionLayout
/-!
# The literals in a projection

A projection is a literal that holds others: the value of a property writes out literals of the
mappings that it delegates to, one level deeper, and these do the same. No literal lies deeper than
its own mapping allows, nor than the property allows in whose place it stands.

* `Inlining`: a literal with its mapping, its depth and the name of its input.
* `Value.written`: the literals in an expression that do not lie in another one.
* `Inlining.Holds`: a literal lies in another one, at any number of levels.
* `Emitter.Writes`: the INVARIANT: a literal is what its mapping comes to at its depth.
* `Emitter.Writes.of_mem`: a literal in a literal keeps it; `Emitter.Writes.of_holds`: so do all.
-/

namespace TypeMapper

/-! ## 1. Literals in expressions -/

/-- A literal: its mapping, its depth, the name of its input, and the expression. -/
structure Inlining where
  target : MappingId
  depth : Nat
  binding : String
  value : Value
  deriving Inhabited

namespace Value

mutual

/-- The literals in an expression that do not lie in another one. -/
def written : Value → List Inlining
  | present v => written v
  | orStandard v => written v
  | required v => written v
  | cases _ _ v otherwise => written v ++ written otherwise
  | mapped _ _ v => written v
  | chained _ _ v => written v
  | each _ _ v _ _ => written v
  | entries _ _ _ k v _ _ => written k ++ written v
  | tuple vs => writtenOf vs
  | inlined target depth binding _ v => [⟨target, depth, binding, v⟩]
  | construct _ fields _ => fieldWritten fields
  | _ => []

/-- The literals in expressions. -/
def writtenOf : List Value → List Inlining
  | [] => []
  | v :: rest => written v ++ writtenOf rest

/-- The literals in fields. -/
def fieldWritten : List (String × Value) → List Inlining
  | [] => []
  | (_, v) :: rest => written v ++ fieldWritten rest

end

theorem mem_written_construct {type : PathSpelling} {fields : List (String × Value)} {isOpen : Bool}
    {l : Inlining} : l ∈ (construct type fields isOpen).written ↔ ∃ f ∈ fields, l ∈ f.2.written := by
  show l ∈ fieldWritten fields ↔ _
  induction fields with
  | nil => simp [fieldWritten]
  | cons f fields ih => simp [fieldWritten, ih]

end Value

/-- A literal lies in another one, at any number of levels; it lies in itself. -/
abbrev Inlining.Holds : Inlining → Inlining → Prop :=
  Relation.ReflTransGen fun l l' => l' ∈ l.value.written

/-- The literals in what is laid out are those that its calls are written out as. -/
theorem Inliner.Lays.mem_written {inline : Inliner} {S : List DelegateCall} {root : String}
    {us : List (Option DelegateCall)} {v : Value} (h : inline.Lays S root us v) {l : Inlining}
    (hl : l ∈ v.written) : ∃ c ∈ S, ∃ p w, inline c p = .ok w ∧ l ∈ w.written := by
  induction h with
  | read | copies | tupleNil => exact absurd hl List.not_mem_nil
  | call hc hv => exact ⟨_, hc, _, _, hv, hl⟩
  | present _ ih | orStandard _ ih | required _ ih => exact ih hl
  | mapped _ _ _ ih | chained _ _ _ ih | each _ _ _ _ ih => exact ih hl
  | entries _ _ _ _ _ _ ihk ihv => exact (List.mem_append.mp hl).elim ihk ihv
  | tupleCons _ _ ihv ihvs => exact (List.mem_append.mp hl).elim ihv ihvs

/-! ## 2. One level -/

namespace Emitter

variable {e : Emitter}

/-- What a call is written out as holds at most one literal: that of its target, at a depth that the
target allows. -/
theorem mem_written_inlineAt {literal : MappingId → Place → Emit Value} {depth : Nat}
    {c : DelegateCall} {p : Place} {w : Value} (hw : e.inlineAt literal depth c p = .ok w)
    {l : Inlining} (hl : l ∈ w.written) : ∃ k, c.target = some l.target ∧
      e.arena.get? l.target = some k ∧ l.depth = depth + 1 ∧ l.depth ≤ k.maxRecursionDepth.toNat ∧
      l.binding = inputName (atDepth "nested" l.depth) (k.readsInput l.depth) ∧
      literal l.target (.binding l.binding false) = .ok l.value := by
  have hgives : Gives (fun w => ∀ l ∈ w.written, ∃ k, c.target = some l.target ∧
      e.arena.get? l.target = some k ∧ l.depth = depth + 1 ∧ l.depth ≤ k.maxRecursionDepth.toNat ∧
      l.binding = inputName (atDepth "nested" l.depth) (k.readsInput l.depth) ∧
      literal l.target (.binding l.binding false) = .ok l.value) (e.inlineAt literal depth c p) := by
    unfold inlineAt
    refine (gives_ofOption _ _).bind fun t ht => (gives_ofOption _ _).bind fun k hk => ?_
    split
    · exact gives_ok fun l hl => absurd hl List.not_mem_nil
    · rename_i hle
      refine (gives_self _).bind fun v hv => gives_ok fun l hl => ?_
      obtain rfl := List.mem_singleton.mp hl
      exact ⟨k, ht, hk, rfl, Nat.not_lt.mp hle, rfl, hv⟩
  exact hgives w hw l hl

/-- **What a literal is**: what its mapping comes to at its depth. The levels that are left do not
cut it short. -/
def Writes (e : Emitter) (l : Inlining) : Prop :=
  l.depth ≤ e.arena.deepest ∧
    e.literalFrom (e.arena.deepest + 1 - l.depth) l.depth l.target (.binding l.binding false) =
      .ok l.value

/-- A literal in the place of a property of a literal: it lies one level deeper, and no deeper than
the property and its own mapping allow. Its input is named by what its mapping says that it reads.
-/
structure Within (e : Emitter) (m : Mapping) (l : Inlining) (p : PropertyMapping) (l' : Inlining) :
    Prop where
  depth : l'.depth = l.depth + 1
  property : l'.depth ≤ m.depthLimit p
  mapping : ∃ c ∈ p.delegates, ∃ k, c.target = some l'.target ∧ e.arena.get? l'.target = some k ∧
    l'.depth ≤ k.maxRecursionDepth.toNat ∧
    l'.binding = inputName (atDepth "nested" l'.depth) (k.readsInput l'.depth)

/-- The literal of a mapping as it is laid out, and how the calls in it are written out. -/
theorem Writes.literalOf {l : Inlining} (h : e.Writes l) : ∃ m, e.arena.get? l.target = some m ∧
    LiteralOf m (e.inlineAt (e.literalFrom (e.arena.deepest - l.depth) (l.depth + 1)) l.depth)
      l.depth l.binding l.value := by
  obtain ⟨hdepth, hvalue⟩ := h
  rw [show e.arena.deepest + 1 - l.depth = (e.arena.deepest - l.depth) + 1 by omega] at hvalue
  exact literalFrom_literalOf _ _ _ _ _ hvalue

/-- **One level**: the literals in the place of a property lie within its bounds, and they are
literals again. -/
theorem Writes.step {l : Inlining} {m : Mapping} {p : PropertyMapping} {v : Value}
    (hv : FieldOf m (e.inlineAt (e.literalFrom (e.arena.deepest - l.depth) (l.depth + 1)) l.depth)
      l.depth l.binding p v) {l' : Inlining} (hl : l' ∈ v.written) :
    e.Within m l p l' ∧ e.Writes l' := by
  unfold FieldOf at hv
  split at hv
  · rw [hv] at hl
    exact absurd hl List.not_mem_nil
  · rename_i hcuts
    obtain ⟨c, hc, q, w, hw, hmem⟩ := hv.mem_written hl
    obtain ⟨k, ht, hk, hdepth, hmax, hbinding, hvalue⟩ := mem_written_inlineAt hw hmem
    have hdelegates : p.delegates.isEmpty = false :=
      Bool.eq_false_iff.mpr fun hnone => List.ne_nil_of_mem hc (List.isEmpty_iff.mp hnone)
    have hlimit : l.depth < m.depthLimit p := by
      rw [Mapping.cuts, hdelegates, Bool.not_false, Bool.true_and, decide_eq_true_eq] at hcuts
      omega
    have hdeepest := Nat.le_trans hmax (Arena.le_deepest hk)
    refine ⟨⟨hdepth, by omega, c, hc, k, ht, hk, hmax, hbinding⟩, hdeepest, ?_⟩
    rw [hdepth] at hdeepest ⊢
    rwa [show e.arena.deepest + 1 - (l.depth + 1) = e.arena.deepest - l.depth by omega]

/-! ## 3. All levels -/

/-- A literal in a literal stands in the place of a property there. -/
theorem Writes.of_mem {l l' : Inlining} (h : e.Writes l) (hl : l' ∈ l.value.written) :
    (∃ m p, e.Within m l p l') ∧ e.Writes l' := by
  obtain ⟨m, -, type, fields, isOpen, hvalue, hfields⟩ := h.literalOf
  rw [hvalue, Value.mem_written_construct] at hl
  obtain ⟨f, hf, hmem⟩ := hl
  obtain ⟨p, -, hp⟩ := exists_of_mem_right hfields hf
  obtain ⟨hwithin, hwrites⟩ := Writes.step hp hmem
  exact ⟨⟨m, p, hwithin⟩, hwrites⟩

/-- **A literal in a literal is one too**, at any number of levels. -/
theorem Writes.of_holds {l l' : Inlining} (h : e.Writes l) (hl : l.Holds l') : e.Writes l' := by
  induction hl with
  | refl => exact h
  | tail _ hstep ih => exact (ih.of_mem hstep).2

/-- The literal that is the body of a projection. -/
def whole (e : Emitter) (r : Projection) : Inlining := ⟨e.id, 0, r.input, r.body⟩

theorem writes_whole {r : Projection} (h : e.projection = .ok r) : e.Writes (e.whole r) :=
  ⟨Nat.zero_le _, (projection_parts r h).body⟩

/-- **A literal within its bounds**, property by property: it has a field for each property that
needs no helper, and what is written there lies no deeper than it may. -/
def Bounded (e : Emitter) (l : Inlining) : Prop :=
  ∃ m, e.arena.get? l.target = some m ∧ ∃ type fields isOpen,
    l.value = .construct type fields isOpen ∧
    List.Forall₂ (fun p f => ∀ l' ∈ f.2.written, e.Within m l p l')
      (m.properties.filter fun p => !p.needsHelper) fields

theorem Writes.bounded {l : Inlining} (h : e.Writes l) : e.Bounded l := by
  obtain ⟨m, hm, type, fields, isOpen, hvalue, hfields⟩ := h.literalOf
  exact ⟨m, hm, type, fields, isOpen, hvalue, hfields.imp fun p f hf l' hl => (step hf hl).1⟩

end Emitter

end TypeMapper

import TypeMapper.Proofs.Routine.Inlining
/-!
# Counting depth in a machine word

The depth of a literal is counted in a word of 32 bits, by which there are as many levels as there
are words. A counter that is increased where it would overflow has no depth to give; but it is only
increased for a call that a property writes out, which lies below a bound that is a word itself. So
the counter never overflows, whatever bounds are set, and counts what the depth is.

* `Emitter.literalCounted`: the literal of a mapping with such a counter.
* `Inliner.along_congr`: a value depends on how the calls of its property are written out only.
* `Emitter.literalCounted_eq`: with any outcome of an overflow the literal is the same.
* `Emitter.projection_endsWithinBounds`: projections come to an end and keep to their bounds.
-/

namespace TypeMapper

/-! ## 1. The counter -/

namespace Emitter

/-- How the value of a delegate call is written out, given the literals at the next count;
`overflow` is what comes of a count that cannot be increased. -/
def inlineCounted (e : Emitter) (overflow : Emit Value) (depth : UInt32)
    (literal : (next : UInt32) → depth.toNat < next.toNat → MappingId → Place → Emit Value) :
    Inliner := fun c p => do
  let id ← Emit.ofOption c.target (.unboundDelegate c.key)
  let target ← Emit.ofOption (e.arena.get? id) (.unknownMapping id)
  if h : depth.toNat < (depth + 1).toNat then
    if target.maxRecursionDepth < depth + 1 then return .standard
    let next := (depth + 1).toNat
    let name := inputName (atDepth "nested" next) (target.readsInput next)
    let v ← literal (depth + 1) h id (.binding name false)
    return .inlined id next name p v
  else overflow

/-- The literal of a mapping at a count, which goes on until it overflows. -/
def literalCounted (e : Emitter) (overflow : Emit Value) (depth : UInt32) (id : MappingId)
    (input : Place) : Emit Value := do
  let m ← Emit.ofOption (e.arena.get? id) (.unknownMapping id)
  let destination ← e.scope.path m.destination
  let inline := e.inlineCounted overflow depth fun next _ => literalCounted e overflow next
  let fields ← (m.properties.filter fun p => !p.needsHelper).mapM
    (projectedField inline m input depth.toNat)
  return .construct destination fields (m.properties.any PropertyMapping.needsHelper)
termination_by UInt32.size - depth.toNat
decreasing_by
  have hlt := next.toNat_lt
  simp only [UInt32.size] at hlt ⊢
  omega

end Emitter

/-! ## 2. Values and calls -/

theorem mapM_congr {ε α β : Type} {f g : α → Except ε β} {xs : List α} (h : ∀ x ∈ xs, f x = g x) :
    xs.mapM f = xs.mapM g := by
  induction xs with
  | nil => rfl
  | cons x xs ih =>
      rw [List.forall_mem_cons] at h
      rw [List.mapM_cons, List.mapM_cons, h.1, ih h.2]

/-- What may be missing is only looked at where it is there. -/
theorem bind_ofOption_congr {α β : Type} {x : Option α} {err : SpellingError} {f g : α → Emit β}
    (h : ∀ a, x = some a → f a = g a) :
    (Emit.ofOption x err >>= f) = Emit.ofOption x err >>= g := by
  cases x with
  | none => rfl
  | some a => exact h a rfl

namespace Inliner

variable {inline other : Inliner}

/-- Two ways to write out calls agree on a strategy. -/
def Agree (inline other : Inliner) (s : Option Strategy) : Prop :=
  ∀ c, s = some (.delegate c) → inline c = other c

theorem convert_congr {s : Option Strategy} (h : Agree inline other s) :
    inline.convert s = other.convert s := by
  funext p byValue
  unfold convert
  split
  · rfl
  · rename_i c
    rw [h c rfl]
  · rfl

section Slot

variable {el : ElementMapping} (h : Agree inline other el.strategy)

include h

theorem slot_congr : inline.slot el = other.slot el := by
  funext p binding
  simp only [slot, slotValue, convert_congr h]

theorem mapSlot_congr : inline.mapSlot el = other.mapSlot el := by
  funext binding
  simp only [mapSlot, slotValue, convert_congr h, slot_congr h]

theorem collection_congr (depth : Nat) (p : Place) (target : CollectionKind) :
    inline.collection depth p target el = other.collection depth p target el := by
  simp only [collection, slotValue, convert_congr h, slot_congr h]

end Slot

theorem tupleFrom_congr {els : List ElementMapping} (h : ∀ el ∈ els, Agree inline other el.strategy)
    (depth : Nat) (p : Place) (i : Nat) :
    inline.tupleFrom depth p i els = other.tupleFrom depth p i els := by
  induction els generalizing i with
  | nil => rfl
  | cons el rest ih =>
      rw [List.forall_mem_cons] at h
      simp only [tupleFrom, slot_congr h.1, ih h.2]

variable {m : PropertyMapping} (h : ∀ c ∈ m.delegates, inline c = other c)

include h

theorem terminal_congr (depth : Nat) (p : Place) :
    inline.terminal depth m p = other.terminal depth m p := by
  have hel : ∀ el ∈ m.shape.elements, Agree inline other el.strategy :=
    fun el he c hc => h c (mem_delegates_of_slot he hc)
  unfold terminal
  cases hshape : m.shape with
  | scalar =>
      have hown : inline.convert m.strategy = other.convert m.strategy :=
        convert_congr fun c hc => h c (List.mem_filterMap.mpr
          ⟨_, List.mem_append_left _ (Option.mem_toList.mpr hc), rfl⟩)
      simp only [hown]
  | collection s target el =>
      rw [hshape] at hel
      simp only [collection_congr (hel el List.mem_cons_self)]
  | map target k v =>
      rw [hshape] at hel
      simp only [entries, mapSlot_congr (hel k List.mem_cons_self),
        mapSlot_congr (hel v (List.mem_cons_of_mem k List.mem_cons_self))]
  | tuple els =>
      rw [hshape] at hel
      have htuple : inline.tupleFrom depth p 0 els = other.tupleFrom depth p 0 els :=
        tupleFrom_congr hel depth p 0
      simp only [htuple]

/-- **A value depends on how the calls of its property are written out**, and on no others. -/
theorem along_congr (depth : Nat) (base : Place) (hops : List Hop) :
    inline.along depth m base hops = other.along depth m base hops := by
  induction hops generalizing base with
  | nil => exact terminal_congr h depth base
  | cons hop rest ih => simp only [along, ih]

end Inliner

/-! ## 3. No overflow -/

namespace Emitter

variable {e : Emitter}

/-- A property that is cut writes out no call. -/
theorem projectedField_congr {inline other : Inliner} {m : Mapping} {depth : Nat}
    {p : PropertyMapping} (h : m.cuts depth p = false → ∀ c ∈ p.delegates, inline c = other c)
    (input : Place) :
    projectedField inline m input depth p = projectedField other m input depth p := by
  unfold projectedField
  cases hcuts : m.cuts depth p with
  | true => rfl
  | false => simp only [Inliner.along_congr (h hcuts)]

/-- A property that writes out a call lies above its bound, which is a word: there is a next count.
-/
theorem toNat_add_one_of_not_cuts {m : Mapping} {depth : UInt32} {p : PropertyMapping}
    (hcuts : m.cuts depth.toNat p = false) {c : DelegateCall} (hc : c ∈ p.delegates) :
    (depth + 1).toNat = depth.toNat + 1 := by
  have hdelegates : p.delegates.isEmpty = false :=
    Bool.eq_false_iff.mpr fun hnone => List.ne_nil_of_mem hc (List.isEmpty_iff.mp hnone)
  rw [Mapping.cuts, hdelegates, Bool.not_false, Bool.true_and, decide_eq_false_iff_not,
    Mapping.depthLimit] at hcuts
  have hbound := (p.maxRecursionDepth.getD m.maxRecursionDepth).toNat_lt
  rw [UInt32.toNat_add, UInt32.toNat_one]
  omega

/-- A call is written out by the count as it is by the depth, if there is a next count and the
literals there are the same. -/
theorem inlineCounted_eq_inlineAt {overflow : Emit Value} {depth : UInt32}
    (hnext : (depth + 1).toNat = depth.toNat + 1)
    {counted : (next : UInt32) → depth.toNat < next.toNat → MappingId → Place → Emit Value}
    {literal : MappingId → Place → Emit Value}
    (hl : ∀ h t k, e.arena.get? t = some k → depth.toNat + 1 ≤ k.maxRecursionDepth.toNat →
      counted (depth + 1) h t = literal t) :
    e.inlineCounted overflow depth counted = e.inlineAt literal depth.toNat := by
  funext c p
  refine bind_ofOption_congr fun t _ => bind_ofOption_congr fun k hk => ?_
  have hlt : depth.toNat < (depth + 1).toNat := by omega
  have hguard : k.maxRecursionDepth < depth + 1 ↔ k.maxRecursionDepth.toNat < depth.toNat + 1 := by
    rw [UInt32.lt_iff_toNat_lt, hnext]
  rw [dif_pos hlt]
  simp only [hguard, hnext]
  split
  · rfl
  · rename_i hle
    rw [hl hlt t k hk (Nat.not_lt.mp hle)]

/-- **The counter never overflows**: whatever would come of it, the literal is the one at the depth
that is counted. The induction is on the levels that the deepest mapping leaves. -/
theorem literalCounted_eq_literalFrom (overflow : Emit Value) {n : Nat} {depth : UInt32}
    (hd : depth.toNat ≤ e.arena.deepest) (hn : e.arena.deepest < depth.toNat + n) :
    e.literalCounted overflow depth = e.literalFrom n depth.toNat := by
  induction n generalizing depth with
  | zero => omega
  | succ n ih =>
      funext id input
      have hfield (m : Mapping) (p : PropertyMapping) :
          projectedField (e.inlineCounted overflow depth fun next _ => e.literalCounted overflow next)
              m input depth.toNat p =
            projectedField (e.inlineAt (e.literalFrom n (depth.toNat + 1)) depth.toNat)
              m input depth.toNat p := by
        refine projectedField_congr (fun hcuts c hc => ?_) input
        have hnext := toNat_add_one_of_not_cuts hcuts hc
        refine congrFun (inlineCounted_eq_inlineAt hnext fun _ t k hk hle => ?_) c
        have hdeepest := Arena.le_deepest hk
        rw [ih (by omega) (by omega), hnext]
      unfold literalCounted literalFrom
      refine bind_ofOption_congr fun m _ => ?_
      simp only [mapM_congr fun p _ => hfield m p]

/-- **The literal with a counter** is the literal of the mapping, whatever comes of an overflow. -/
theorem literalCounted_eq (overflow : Emit Value) (id : MappingId) (input : Place) :
    e.literalCounted overflow 0 id input = e.literal id input := by
  have hzero : (0 : UInt32).toNat = 0 := rfl
  rw [literalCounted_eq_literalFrom overflow (n := e.arena.deepest + 1) (by omega) (by omega), hzero,
    literal]

/-! ## 4. Projections -/

/-- **The projection of a mapping comes to an end**, by a recursion that counts its depth in a word,
and no literal in it lies deeper than it may. -/
structure EndsWithinBounds (e : Emitter) : Prop where
  /-- The recursion with the counter comes to the literal. Nothing depends on what an overflow would
  come to: there is none. -/
  counted : ∀ overflow input, e.literalCounted overflow 0 e.id input = e.literal e.id input
  /-- Each literal in the projection, at any number of levels, has what it holds within bounds. -/
  bounded : ∀ r, e.projection = .ok r → ∀ l, (e.whole r).Holds l → e.Bounded l

/-- **The projections of all mappings** come to an end and keep to their bounds. -/
theorem projection_endsWithinBounds (e : Emitter) : e.EndsWithinBounds where
  counted overflow input := literalCounted_eq overflow e.id input
  bounded _ hr _ hl := ((writes_whole hr).of_holds hl).bounded

end Emitter

end TypeMapper

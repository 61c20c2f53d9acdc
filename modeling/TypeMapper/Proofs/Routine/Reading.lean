import TypeMapper.Proofs.Routine.Inlining
/-!
# What the literals in a projection read

A literal reads from its input and from no other name around it, for the closures in it read from
what they bind. It reads the input if some property that is left in it does, where a call that is
not written out reads nothing.

* `Value.reads`: a name is read in an expression, where it is not bound again.
* `Inliner.Lays.readsOnly`: a value reads nothing but what it is laid out to read from.
* `Emitter.readsFrom`: the literal of a mapping at a depth reads its input.
* `Emitter.Writes.readsOnly`: it does, and nothing else.
-/

namespace TypeMapper

/-! ## 1. Names that are read -/

namespace Value

mutual

/-- The name is read in an expression, outside of what binds it again. -/
def reads (x : String) : Value → Bool
  | read p _ => p.root == x
  | present v => reads x v
  | orStandard v => reads x v
  | required v => reads x v
  | method _ _ subject arguments _ _ => subject.place.root == x || arguments.contains x
  | resolve _ _ resolver subject _ _ => resolver == x || subject.place.root == x
  | delegate _ _ _ input arguments _ => input.root == x || arguments.contains x
  | cases p binding v otherwise => p.root == x || (binding != x && reads x v) || reads x otherwise
  | mapped p binding v => p.root == x || (binding != x && reads x v)
  | chained p binding v => p.root == x || (binding != x && reads x v)
  | copies items _ _ => items.place.root == x
  | each items binding v _ _ => items.place.root == x || (binding != x && reads x v)
  | entries p keyBinding valueBinding k v _ _ =>
    p.root == x || (keyBinding != x && valueBinding != x && (reads x k || reads x v))
  | tuple vs => readsOf x vs
  | inlined _ _ binding input v => input.root == x || (binding != x && reads x v)
  | construct _ fields _ => fieldsRead x fields
  | _ => false

/-- The name is read in expressions. -/
def readsOf (x : String) : List Value → Bool
  | [] => false
  | v :: rest => reads x v || readsOf x rest

/-- The name is read in fields. -/
def fieldsRead (x : String) : List (String × Value) → Bool
  | [] => false
  | (_, v) :: rest => reads x v || fieldsRead x rest

end

/-- The only name that is read in an expression is `root`, and it is if `b` says so. -/
def ReadsOnly (root : String) (b : Bool) (v : Value) : Prop := ∀ x, v.reads x = (b && root == x)

/-- What reads nothing but the name that is bound around it reads nothing from outside. -/
theorem ReadsOnly.closed {binding : String} {b : Bool} {v : Value} (h : v.ReadsOnly binding b)
    (x : String) : (binding != x && v.reads x) = false := by
  rw [h x, bne]
  cases b <;> cases binding == x <;> rfl

end Value

open Value

/-! ## 2. Values -/

/-- What is used outside of closures reads its input: a copy does, and a call that is written out.
-/
def readsByUse (writes : DelegateCall → Bool) (us : List (Option DelegateCall)) : Bool :=
  us.any fun u => u.elim true writes

/-- **A value reads nothing but its input**, and that exactly if one of its uses does. -/
theorem Inliner.Lays.readsOnly {inline : Inliner} {S : List DelegateCall} {root : String}
    {us : List (Option DelegateCall)} {v : Value} (h : inline.Lays S root us v)
    {writes : DelegateCall → Bool}
    (hi : ∀ c p, Gives (ReadsOnly p.root (writes c)) (inline c p)) :
    v.ReadsOnly root (readsByUse writes us) := by
  induction h with
  | read | copies => exact fun x => rfl
  | @call c p v _ hv =>
      rw [show readsByUse writes [some c] = writes c from Bool.or_false _]
      exact hi c p v hv
  | present _ ih | orStandard _ ih | required _ ih => exact ih
  | mapped p binding _ ih | chained p binding _ ih =>
      intro x
      rw [reads, ih.closed x, Bool.or_false]
      rfl
  | each items binding target _ ih =>
      intro x
      rw [reads, ih.closed x, Bool.or_false]
      rfl
  | @entries us ws k v p keyBinding valueBinding target _ _ ihk ihv =>
      intro x
      have hkey := ihk.closed x
      have hvalue := ihv.closed x
      have hpair : (keyBinding != x && valueBinding != x && (k.reads x || v.reads x)) = false := by
        revert hkey hvalue
        cases keyBinding != x <;> cases valueBinding != x <;> cases k.reads x <;>
          cases v.reads x <;> simp
      rw [reads, hpair, Bool.or_false]
      rfl
  | tupleNil => exact fun x => rfl
  | @tupleCons root u us v vs _ _ ihv ihvs =>
      intro x
      show (v.reads x || (tuple vs).reads x) = _
      rw [ihv x, ihvs x, readsByUse, readsByUse, readsByUse, List.any_append, Bool.and_or_distrib_right]

/-! ## 3. Literals -/

namespace Emitter

variable {e : Emitter}

/-- A call at a depth is written out: its target is there and allows a literal one level deeper. -/
def writesOut (e : Emitter) (depth : Nat) (c : DelegateCall) : Bool :=
  ((c.target.bind e.arena.get?).map fun k => decide (depth + 1 ≤ k.maxRecursionDepth.toNat)).getD
    false

/-- The literal of a mapping at a depth reads its input: some property that is written out does. -/
def readsFrom (e : Emitter) (m : Mapping) (depth : Nat) : Bool :=
  m.properties.any fun p =>
    !p.needsHelper && !m.cuts depth p && readsByUse (e.writesOut depth) p.uses

/-- A call that is written out reads its place, and one that is not reads nothing. -/
theorem inlineAt_readsOnly {literal : MappingId → Place → Emit Value}
    (hl : ∀ t p, Gives (fun v => ∃ b, v.ReadsOnly p.root b) (literal t p)) (depth : Nat)
    (c : DelegateCall) (p : Place) :
    Gives (ReadsOnly p.root (e.writesOut depth c)) (e.inlineAt literal depth c p) := by
  unfold inlineAt
  refine (gives_ofOption _ _).bind fun t ht => (gives_ofOption _ _).bind fun k hk => ?_
  have hwrites : e.writesOut depth c = decide (depth + 1 ≤ k.maxRecursionDepth.toNat) := by
    rw [writesOut, ht, Option.bind_some, hk]
    rfl
  rw [hwrites]
  split
  · rename_i hcut
    rw [decide_eq_false (by omega)]
    exact gives_ok fun x => rfl
  · rename_i hle
    rw [decide_eq_true (by omega)]
    refine (hl _ _).bind fun v hv => gives_ok fun x => ?_
    obtain ⟨b, hb⟩ := hv
    exact (congrArg (p.root == x || ·) (hb.closed x)).trans (Bool.or_false _)

theorem FieldOf.readsOnly {m : Mapping} {inline : Inliner} {depth : Nat} {root : String}
    {p : PropertyMapping} {v : Value} (h : FieldOf m inline depth root p v)
    {writes : DelegateCall → Bool} (hi : ∀ c p, Gives (ReadsOnly p.root (writes c)) (inline c p)) :
    v.ReadsOnly root (!m.cuts depth p && readsByUse writes p.uses) := by
  unfold FieldOf at h
  cases hcuts : m.cuts depth p with
  | true =>
      rw [hcuts, if_pos rfl] at h
      rw [h]
      exact fun x => rfl
  | false =>
      rw [hcuts, if_neg Bool.false_ne_true] at h
      exact h.readsOnly hi

theorem fieldsRead_eq {root : String} {b : PropertyMapping → Bool} {ps : List PropertyMapping}
    {fields : List (String × Value)}
    (h : List.Forall₂ (fun p f => f.2.ReadsOnly root (b p)) ps fields) (x : String) :
    fieldsRead x fields = (ps.any b && root == x) := by
  induction h with
  | nil => rfl
  | cons hf _ ih => rw [fieldsRead, ih, hf x, List.any_cons, Bool.and_or_distrib_right]

/-- **A literal reads nothing but its input**, and that exactly if one of its fields does. -/
theorem LiteralOf.readsOnly {m : Mapping} {inline : Inliner} {depth : Nat} {root : String}
    {v : Value} (h : LiteralOf m inline depth root v)
    (hi : ∀ c p, Gives (ReadsOnly p.root (e.writesOut depth c)) (inline c p)) :
    v.ReadsOnly root (e.readsFrom m depth) := by
  obtain ⟨type, fields, isOpen, rfl, hfields⟩ := h
  intro x
  show fieldsRead x fields = _
  rw [fieldsRead_eq (hfields.imp fun _ _ hf => hf.readsOnly hi) x, List.any_filter, readsFrom]
  simp only [Bool.and_assoc]

theorem literalFrom_readsOnly (fuel depth : Nat) (id : MappingId) (input : Place) :
    Gives (fun v => ∃ b, v.ReadsOnly input.root b) (e.literalFrom fuel depth id input) := by
  induction fuel generalizing depth id input with
  | zero => exact gives_ok ⟨false, fun x => rfl⟩
  | succ fuel ih =>
      refine (literalFrom_literalOf fuel depth id input).imp fun v hv => ?_
      obtain ⟨m, -, hv⟩ := hv
      exact ⟨_, hv.readsOnly (e := e) (inlineAt_readsOnly (ih (depth + 1)) depth)⟩

/-- **What a literal in a projection reads**: its input, exactly if its mapping says so, and no
other name. -/
theorem Writes.readsOnly {l : Inlining} (h : e.Writes l) : ∃ m, e.arena.get? l.target = some m ∧
    l.value.ReadsOnly l.binding (e.readsFrom m l.depth) := by
  obtain ⟨m, hm, hv⟩ := h.literalOf
  exact ⟨m, hm, hv.readsOnly (inlineAt_readsOnly (literalFrom_readsOnly _ _) _)⟩

end Emitter

end TypeMapper

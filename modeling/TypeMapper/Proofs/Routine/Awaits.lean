import TypeMapper.Proofs.Resolution.Async
import TypeMapper.Proofs.Routine.Layout
import TypeMapper.Proofs.Routine.ProjectionLayout
/-!
# Where a routine awaits

An asynchronous call is awaited where it stands, and so are slots that are joined. An await needs an
asynchronous function or closure right around it: the routine, or the asynchronous closures of
joined slots. All other closures are plain.

* `Value.awaits`: the awaits in an expression, each with what is around it.
* `Value.AwaitsIf`: there are some exactly if a flag says so, and then all of them may stand there.
* `Emitter.Lays.awaitsIf`: the values in a routine, by induction on how they are laid out.
* `Emitter.projection_awaitsNothing`: a projection awaits nothing.
-/

namespace TypeMapper

/-! ## 1. Awaits in expressions -/

namespace Value

mutual

/-- The awaits in an expression, each with whether the function or closure right around it is
asynchronous; `around` says this of the whole expression. -/
def awaits (around : Bool) : Value → List Bool
  | method _ _ _ _ isAsync _ => if isAsync then [around] else []
  | resolve _ _ _ _ isAsync _ => if isAsync then [around] else []
  | delegate _ _ _ _ _ isAsync => if isAsync then [around] else []
  | present v => awaits around v
  | orStandard v => awaits around v
  | required v => awaits around v
  | cases _ _ v otherwise => awaits around v ++ awaits around otherwise
  | mapped _ _ v => awaits false v
  | chained _ _ v => awaits false v
  | each _ _ v _ gathering =>
    -- joined slots are awaited together, each in an asynchronous closure of its own
    if gathering = .joined then awaits true v ++ [around] else awaits false v
  | entries _ _ _ k v _ gathering =>
    if gathering = .joined then awaits true k ++ awaits true v ++ [around]
    else awaits false k ++ awaits false v
  | tuple vs => awaitsOf around vs
  | inlined _ _ _ _ v => awaits around v
  | construct _ fields _ => fieldAwaits around fields
  | _ => []

/-- The awaits in expressions. -/
def awaitsOf (around : Bool) : List Value → List Bool
  | [] => []
  | v :: rest => awaits around v ++ awaitsOf around rest

/-- The awaits in fields. -/
def fieldAwaits (around : Bool) : List (String × Value) → List Bool
  | [] => []
  | (_, v) :: rest => awaits around v ++ fieldAwaits around rest

end

/-- **An expression awaits if `w` says so**, and in an asynchronous function all its awaits stand in
asynchronous functions. -/
structure AwaitsIf (w : Bool) (v : Value) : Prop where
  none_iff : ∀ around, v.awaits around = [] ↔ w = false
  inside : ∀ b ∈ v.awaits true, b = true

theorem awaitsIf_of_nil {v : Value} (h : ∀ around, v.awaits around = []) : v.AwaitsIf false where
  none_iff around := iff_of_true (h around) rfl
  inside _ hb := absurd (h true ▸ hb) List.not_mem_nil

/-- A single call. -/
theorem awaitsIf_of_call {v : Value} {isAsync : Bool}
    (h : ∀ around, v.awaits around = if isAsync then [around] else []) : v.AwaitsIf isAsync where
  none_iff around := by
    rw [h]
    cases isAsync <;> simp
  inside b hb := by
    rw [h] at hb
    cases isAsync <;> simp_all

/-- Two expressions one after the other. -/
theorem AwaitsIf.append {w x : Bool} {v u t : Value} (hv : v.AwaitsIf w) (hu : u.AwaitsIf x)
    (ht : ∀ around, t.awaits around = v.awaits around ++ u.awaits around) :
    t.AwaitsIf (w || x) where
  none_iff around := by
    rw [ht, List.append_eq_nil_iff, hv.none_iff, hu.none_iff, Bool.or_eq_false_iff]
  inside b hb := by
    rw [ht, List.mem_append] at hb
    exact hb.elim (hv.inside b) (hu.inside b)

/-- Slots in closures: they are joined exactly if something in them is awaited. -/
theorem AwaitsIf.gathered {w : Bool} {v t : Value} (hv : v.AwaitsIf w) {g : Gathering}
    (hg : g = .joined ↔ w = true)
    (ht : ∀ around, t.awaits around =
      if g = .joined then v.awaits true ++ [around] else v.awaits false) : t.AwaitsIf w := by
  cases w with
  | true =>
      simp only [hg, if_true] at ht
      exact ⟨fun around => by simp [ht], fun b hb => by
        rw [ht] at hb
        exact (List.mem_append.mp hb).elim (hv.inside b) List.mem_singleton.mp⟩
  | false =>
      simp only [hg, Bool.false_eq_true, if_false] at ht
      exact awaitsIf_of_nil fun around => (ht around).trans ((hv.none_iff false).mpr rfl)

theorem StandsIn.awaits {v : Value} (h : v.StandsIn) (around : Bool) : v.awaits around = [] := by
  cases h <;> rfl

end Value

open Value

namespace Emitter

variable {e : Emitter}

/-! ## 2. Routines -/

/-- **A conversion is awaited** exactly if its strategy is judged so. -/
theorem convert_awaitsIf (s : Strategy) (p : Place) (byValue : Bool) :
    Gives (AwaitsIf (e.isAwaited (some s))) (e.convert (some s) p byValue) := by
  cases s with
  | method c =>
      refine (gives_true _).bind fun owner _ => (gives_true _).bind fun name _ => ?_
      exact (gives_true _).bind fun arguments _ => gives_ok (awaitsIf_of_call fun _ => rfl)
  | resolver c =>
      refine (gives_true _).bind fun resolver _ => (gives_true _).bind fun input _ => ?_
      exact (gives_true _).bind fun output _ => gives_ok (awaitsIf_of_call fun _ => rfl)
  | delegate c =>
      refine (gives_ofOption c.target _).bind fun t ht => ?_
      refine (gives_ofOption _ _).bind fun k hk => (gives_true _).bind fun routine _ => ?_
      refine (gives_true _).bind fun arguments _ => gives_ok ?_
      have hflag : e.isAwaited (some (.delegate c)) = k.isAsync := by
        rw [isAwaited, ht, Option.map_some, Option.getD_some, Arena.isAsync_of_get? hk]
      rw [hflag]
      exact awaitsIf_of_call fun _ => rfl

/-- **What is laid out** awaits exactly if one of its calls is awaited. -/
theorem Lays.awaitsIf {sites : List CallSite} {v : Value} (h : e.Lays sites v) :
    v.AwaitsIf (e.awaitsAny sites) := by
  induction h with
  | read | copies | tupleNil | fieldsNil => exact awaitsIf_of_nil fun _ => rfl
  | @call s p byValue v hv =>
      rw [show e.awaitsAny [⟨∅, s⟩] = e.isAwaited (some s) from Bool.or_false _]
      exact convert_awaitsIf s p byValue v hv
  | present _ ih => exact ⟨ih.none_iff, ih.inside⟩
  | orStandard _ ih => exact ⟨ih.none_iff, ih.inside⟩
  | cases p binding _ ho ih =>
      rw [awaitsAny_within, ← Bool.or_false (e.awaitsAny _)]
      exact ih.append (awaitsIf_of_nil ho.awaits) fun _ => rfl
  | each items binding target _ hg ih =>
      rw [awaitsAny_within]
      exact ih.gathered hg fun _ => rfl
  | @entries ks vs k v g p keyBinding valueBinding target _ _ hg ihk ihv =>
      rw [awaitsAny_within]
      have hpair : (Value.tuple [k, v]).AwaitsIf (e.awaitsAny (ks ++ vs)) := by
        rw [awaitsAny_append]
        exact ihk.append ihv fun around =>
          congrArg (k.awaits around ++ ·) (List.append_nil (v.awaits around))
      exact hpair.gathered hg fun around => by
        simp only [awaits, awaitsOf, List.append_nil]
  | tupleCons _ _ ihv ihvs =>
      rw [awaitsAny_append]
      exact ihv.append ihvs fun _ => rfl
  | fieldsCons name _ _ ihv ihfields =>
      rw [awaitsAny_append]
      exact ihv.append ihfields fun _ => rfl

/-- **The routine of a mapping** awaits exactly if one of its calls is awaited. -/
theorem primary_awaitsIf :
    Gives (fun r => r.literal.AwaitsIf (e.awaitsAny e.mapping.sites)) e.primary :=
  primary_lays.imp fun _ hr => hr.awaitsIf

end Emitter

/-! ## 3. Projections -/

/-- The expression awaits nothing. -/
def Value.AwaitsNothing (v : Value) : Prop := ∀ around, v.awaits around = []

theorem Value.AwaitsNothing.construct {fields : List (String × Value)}
    (h : ∀ f ∈ fields, f.2.AwaitsNothing) (type : PathSpelling) (isOpen : Bool) :
    (Value.construct type fields isOpen).AwaitsNothing := by
  intro around
  show fieldAwaits around fields = []
  induction fields with
  | nil => rfl
  | cons f fields ih =>
      rw [List.forall_mem_cons] at h
      exact List.append_eq_nil_iff.mpr ⟨h.1 around, ih h.2⟩

/-- What is laid out in a literal awaits nothing, if what its calls come to does not. -/
theorem Inliner.Lays.awaitsNothing {inline : Inliner} {S : List DelegateCall} {root : String}
    {us : List (Option DelegateCall)} {v : Value} (h : inline.Lays S root us v)
    (hi : ∀ c p, Gives AwaitsNothing (inline c p)) : v.AwaitsNothing := by
  induction h with
  | read | copies | tupleNil => exact fun _ => rfl
  | call _ hv => exact hi _ _ _ hv
  | present _ ih | orStandard _ ih | required _ ih => exact ih
  | mapped _ _ _ ih | chained _ _ _ ih | each _ _ _ _ ih => exact fun _ => ih false
  | entries _ _ _ _ _ _ ihk ihv =>
      exact fun _ => List.append_eq_nil_iff.mpr ⟨ihk false, ihv false⟩
  | tupleCons _ _ ihv ihvs =>
      exact fun around => List.append_eq_nil_iff.mpr ⟨ihv around, ihvs around⟩

namespace Emitter

variable {e : Emitter}

theorem keeps_awaitsNothing : e.Keeps AwaitsNothing where
  standard _ := rfl
  construct type _ isOpen h := .construct h type isOpen
  lays _ _ _ _ _ h := h.awaitsNothing
  inlined _ _ _ _ _ _ _ _ hv := hv

/-- **A projection awaits nothing.** -/
theorem projection_awaitsNothing : Gives (fun r => r.body.AwaitsNothing) e.projection :=
  projection_parts.imp fun _ hr => keeps_awaitsNothing.literalFrom _ _ _ _ _ hr.body

end Emitter

end TypeMapper

import TypeMapper.Proofs.Routine.Calls
import TypeMapper.Proofs.Routine.Layout
/-!
# Which names a routine captures

A routine passes its parameters and its resolvers on by name, at places where it has bound names of
its own: a link its present value, a container its slots. A name that is bound there again is
captured: what is passed is the element or the value, and not the parameter.

* `Passing`, `Value.passings`: the names that an expression passes, and what is bound around there.
* `Emitter.passed`: the names that a strategy has passed.
* `Emitter.Lays.passings_eq`: an expression passes at its sites what the strategies there have
  passed, and nothing else.
* `IsLocalName`: the names that routines bind; `Mapping.isLocalName_of_mem_sites`.
* `Emitter.primary_captures`: the routine of a mapping.
-/

namespace TypeMapper

/-! ## 1. What expressions pass -/

/-- A name that is passed to a helper or to another routine, and the names that are bound around
there. -/
structure Passing where
  bound : Finset String
  name : String
  deriving DecidableEq

/-- The passing inside a form that binds names. -/
def Passing.within (names : Finset String) (x : Passing) : Passing := ⟨names ∪ x.bound, x.name⟩

namespace Value

mutual

/-- The names that an expression passes, in order. -/
def passings : Value → List Passing
  | method _ _ _ arguments _ _ => arguments.map (Passing.mk ∅)
  | resolve _ _ resolver _ _ _ => [⟨∅, resolver⟩]
  | delegate _ _ _ _ arguments _ => arguments.map (Passing.mk ∅)
  | present v => passings v
  | orStandard v => passings v
  | required v => passings v
  | cases _ binding v otherwise => (passings v).map (Passing.within {binding}) ++ passings otherwise
  | mapped _ binding v => (passings v).map (Passing.within {binding})
  | chained _ binding v => (passings v).map (Passing.within {binding})
  | each _ binding v _ _ => (passings v).map (Passing.within {binding})
  | entries _ keyBinding valueBinding k v _ _ =>
    (passings k ++ passings v).map (Passing.within {keyBinding, valueBinding})
  | tuple vs => passingsOf vs
  | inlined _ _ binding _ v => (passings v).map (Passing.within {binding})
  | construct _ fields _ => fieldPassings fields
  | _ => []

/-- The names that expressions pass. -/
def passingsOf : List Value → List Passing
  | [] => []
  | v :: rest => passings v ++ passingsOf rest

/-- The names that fields pass. -/
def fieldPassings : List (String × Value) → List Passing
  | [] => []
  | (_, v) :: rest => passings v ++ fieldPassings rest

end

theorem StandsIn.passings_eq_nil {v : Value} (h : v.StandsIn) : v.passings = [] := by
  cases h <;> rfl

end Value

/-! ## 2. What strategies have passed -/

namespace Emitter

variable {e : Emitter}

/-- The name of the parameter of the routine that goes by a name and a type. -/
def parameterName? (e : Emitter) (key : String × TypeRef) : Option String :=
  (e.mapping.parameter? key).bind fun p => Code.name? p.name

/-- **The names that a strategy has passed**: the parameters for the arguments of a method, the
instance of a resolver, and the parameters that the target of a delegate call takes. -/
def passed (e : Emitter) : Strategy → List String
  | .method c => c.arguments.filterMap fun a => e.parameterName? (a.name, a.ty)
  | .resolver c => (Code.name? c.instanceName).toList
  | .delegate c => (c.target.bind e.arena.get?).elim [] fun m =>
    m.entryParameters.filterMap fun q => e.parameterName? q.key

/-- What is passed at a site. -/
def passingsAt (e : Emitter) (s : CallSite) : List Passing :=
  (e.passed s.strategy).map (Passing.mk s.bound)

theorem flatMap_passingsAt_within (names : Finset String) (sites : List CallSite) :
    (sites.map (CallSite.within names)).flatMap e.passingsAt =
      (sites.flatMap e.passingsAt).map (Passing.within names) := by
  rw [List.flatMap_map, List.map_flatMap]
  refine List.flatMap_congr fun s _ => ?_
  rw [passingsAt, passingsAt, List.map_map]
  rfl

/-- Arguments that are looked up one by one are those that are there. -/
theorem mapM_parameter_gives {α : Type} (key : α → String × TypeRef) (xs : List α) :
    Gives (fun names => xs.filterMap (fun x => e.parameterName? (key x)) = names)
      (xs.mapM fun x => e.parameter (key x)) := by
  refine (gives_mapM fun x _ => parameter_gives (key x)).imp fun names hnames => ?_
  induction hnames with
  | nil => rfl
  | @cons x name xs names hname _ ih =>
      obtain ⟨p, hp, hspelled⟩ := hname
      have hfound : e.parameterName? (key x) = some name := by
        rw [parameterName?, hp, Option.bind_some, hspelled]
      simp only [List.filterMap_cons, hfound, ih]

/-- **A call passes** what its strategy has passed. -/
theorem convert_passings (s : Strategy) (p : Place) (byValue : Bool) :
    Gives (fun v => v.passings = (e.passed s).map (Passing.mk ∅)) (e.convert (some s) p byValue) := by
  cases s with
  | method c =>
      refine (gives_true _).bind fun owner _ => (gives_true _).bind fun name _ => ?_
      refine (mapM_parameter_gives (fun a => (a.name, a.ty)) c.arguments).bind
        fun arguments harguments => gives_ok ?_
      rw [passed, harguments]
      rfl
  | resolver c =>
      refine (gives_ofOption _ _).bind fun name hname => (gives_true _).bind fun _ _ => ?_
      refine (gives_true _).bind fun _ _ => gives_ok ?_
      rw [passed, hname]
      rfl
  | delegate c =>
      refine (gives_ofOption _ _).bind fun t ht => (gives_ofOption _ _).bind fun k hk => ?_
      refine (gives_true _).bind fun routine _ => ?_
      refine (mapM_parameter_gives EntryParameter.key k.entryParameters).bind
        fun arguments harguments => gives_ok ?_
      rw [passed, ht, Option.bind_some, hk, Option.elim_some, harguments]
      rfl

/-- **What an expression passes** is what the strategies at its sites have passed, in order. -/
theorem Lays.passings_eq {sites : List CallSite} {v : Value} (h : e.Lays sites v) :
    v.passings = sites.flatMap e.passingsAt := by
  induction h with
  | read | copies | tupleNil | fieldsNil => rfl
  | @call s p byValue v hv =>
      rw [convert_passings s p byValue v hv, List.flatMap_singleton]
      rfl
  | present _ ih | orStandard _ ih => exact ih
  | cases p binding _ ho ih =>
      rw [Value.passings, ho.passings_eq_nil, List.append_nil, ih, flatMap_passingsAt_within]
  | each items binding target _ _ ih => rw [Value.passings, ih, flatMap_passingsAt_within]
  | entries p keyBinding valueBinding target _ _ _ ihk ihv =>
      rw [Value.passings, ihk, ihv, ← List.flatMap_append, flatMap_passingsAt_within]
  | tupleCons _ _ ihv ihvs =>
      rw [List.flatMap_append, ← ihv, ← ihvs]
      rfl
  | fieldsCons name _ _ ihv ihfields =>
      rw [List.flatMap_append, ← ihv, ← ihfields]
      rfl

end Emitter

/-! ## 3. What is bound -/

/-- The names that routines bind themselves: for the slots of containers, and for the present values
of links. -/
inductive IsLocalName : String → Prop where
  | element : IsLocalName "element"
  | key : IsLocalName "key"
  | value : IsLocalName "value"
  | item (i : Nat) : IsLocalName ("item_" ++ toString i)
  | link (name : String) : IsLocalName (name ++ "_value")

namespace CallSite

theorem bound_of_mem_ofStrategy {bound : Finset String} {o : Option Strategy} {s : CallSite}
    (h : s ∈ ofStrategy bound o) : s.bound = bound := by
  obtain ⟨t, -, rfl⟩ := List.mem_map.mp h
  rfl

theorem isLocalName_of_mem_ofTuple {i : Nat} {els : List ElementMapping} {s : CallSite}
    (h : s ∈ ofTuple i els) : ∀ b ∈ s.bound, IsLocalName b := by
  induction els generalizing i with
  | nil => exact absurd h List.not_mem_nil
  | cons el rest ih =>
      rcases List.mem_append.mp h with h | h
      · rw [bound_of_mem_ofStrategy h]
        split
        · intro b hb
          rw [Finset.mem_singleton.mp hb]
          exact .item i
        · exact fun b hb => absurd hb (Finset.notMem_empty b)
      · exact ih h

end CallSite

open CallSite

theorem Hop.isLocalName_of_mem_bindings {hops : List Hop} {b : String} (h : b ∈ bindings hops) :
    IsLocalName b := by
  obtain ⟨hop, -, hbinding⟩ := List.mem_filterMap.mp (List.mem_toFinset.mp h)
  obtain ⟨policy, -, rfl⟩ := Option.map_eq_some_iff.mp hbinding
  exact .link hop.name

namespace PropertyMapping

theorem isLocalName_of_mem_endSites {p : PropertyMapping} {s : CallSite} (h : s ∈ p.endSites) :
    ∀ b ∈ s.bound, IsLocalName b := by
  unfold endSites at h
  cases hshape : p.shape with
  | scalar =>
      rw [hshape] at h
      rw [bound_of_mem_ofStrategy h]
      exact fun b hb => absurd hb (Finset.notMem_empty b)
  | collection source target el =>
      rw [hshape] at h
      rw [bound_of_mem_ofStrategy h]
      intro b hb
      rw [Finset.mem_singleton.mp hb]
      exact .element
  | map target k v =>
      rw [hshape] at h
      have hbound : s.bound = {"key", "value"} :=
        (List.mem_append.mp h).elim bound_of_mem_ofStrategy bound_of_mem_ofStrategy
      rw [hbound]
      intro b hb
      rcases Finset.mem_insert.mp hb with rfl | hb
      · exact .key
      · rw [Finset.mem_singleton.mp hb]
        exact .value
  | tuple els =>
      rw [hshape] at h
      exact isLocalName_of_mem_ofTuple h

end PropertyMapping

/-- **What is bound at a site** is a name that routines bind themselves. -/
theorem Mapping.isLocalName_of_mem_sites {m : Mapping} {s : CallSite} (h : s ∈ m.sites) :
    ∀ b ∈ s.bound, IsLocalName b := by
  obtain ⟨p, -, hs⟩ := List.mem_flatMap.mp h
  obtain ⟨t, ht, rfl⟩ := List.mem_map.mp hs
  intro b hb
  exact (Finset.mem_union.mp hb).elim Hop.isLocalName_of_mem_bindings
    (PropertyMapping.isLocalName_of_mem_endSites ht b)

/-! ## 4. Captured names -/

/-- A word without the mark of a raw name: the mark does not tell names apart. -/
def unmarked (word : String) : List Char :=
  match word.toList with
  | 'r' :: '#' :: rest => rest
  | cs => cs

/-- **The name is bound around the place at which it is passed.** -/
def Passing.Captured (x : Passing) : Prop := ∃ b ∈ x.bound, unmarked b = unmarked x.name

instance : DecidablePred Passing.Captured := fun x =>
  inferInstanceAs (Decidable (∃ b ∈ x.bound, unmarked b = unmarked x.name))

/-- No name that the routine passes is captured. -/
def PrimaryRoutine.CapturesNothing (r : PrimaryRoutine) : Prop :=
  ∀ x ∈ r.literal.passings, ¬ x.Captured

instance : DecidablePred PrimaryRoutine.CapturesNothing := fun r =>
  inferInstanceAs (Decidable (∀ x ∈ r.literal.passings, ¬ x.Captured))

/-- **Where the routine of a mapping passes names**, and which of them it captures. -/
structure Emitter.Captures (e : Emitter) (r : PrimaryRoutine) : Prop where
  /-- It passes at each site of the mapping what the strategy there has passed, and nothing else. -/
  passings : r.literal.passings = e.mapping.sites.flatMap e.passingsAt
  /-- What is bound around there is bound for a slot of a container or for a link. -/
  locals : ∀ x ∈ r.literal.passings, ∀ b ∈ x.bound, IsLocalName b
  /-- It captures nothing exactly if at no site a name is passed that is bound there. -/
  nothing : r.CapturesNothing ↔
    ∀ s ∈ e.mapping.sites, ∀ name ∈ e.passed s.strategy, ∀ b ∈ s.bound, unmarked b ≠ unmarked name

/-- **The routine of a mapping** passes names at the sites of the mapping. -/
theorem Emitter.primary_captures {e : Emitter} : Gives e.Captures e.primary := by
  refine primary_lays.imp fun r hr => ?_
  have hpassings := hr.passings_eq
  have hmem (x : Passing) : x ∈ r.literal.passings ↔
      ∃ s ∈ e.mapping.sites, ∃ name ∈ e.passed s.strategy, ⟨s.bound, name⟩ = x := by
    rw [hpassings, List.mem_flatMap]
    simp only [passingsAt, List.mem_map]
  refine ⟨hpassings, fun x hx => ?_, ?_⟩
  · obtain ⟨s, hs, name, -, rfl⟩ := (hmem x).mp hx
    exact Mapping.isLocalName_of_mem_sites hs
  · constructor
    · intro h s hs name hname b hb heq
      exact h ⟨s.bound, name⟩ ((hmem _).mpr ⟨s, hs, name, hname, rfl⟩) ⟨b, hb, heq⟩
    · rintro h x hx ⟨b, hb, heq⟩
      obtain ⟨s, hs, name, hname, rfl⟩ := (hmem x).mp hx
      exact h s hs name hname b hb heq

end TypeMapper

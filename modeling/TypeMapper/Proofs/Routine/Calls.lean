import TypeMapper.Proofs.Routine.Frames
import TypeMapper.Proofs.Routine.Layout
/-!
# The calls of a routine

A routine calls the routines of other mappings where its mapping delegates, and nowhere else. Each
delegate call becomes one such call, in order: it names the routine of its target, and gives it one
parameter of the calling routine for each parameter that the target takes.

* `Value.calls`: the calls in an expression, read off its syntax tree.
* `Emitter.Makes`: the call that a delegate call becomes.
* `Emitter.convert_calls`, `Emitter.Lays.makesAll`: the calls of conversions and of what holds them.
* `Emitter.primary_calls`: the calls of the routine of a mapping.
-/

namespace TypeMapper

/-! ## 1. Calls in expressions -/

namespace Value

mutual

/-- The calls of routines in an expression, in order. -/
def calls : Value → List RoutineCall
  | delegate target routine own input arguments isAsync =>
    [⟨target, routine, own, input, arguments, isAsync⟩]
  | present v => calls v
  | orStandard v => calls v
  | required v => calls v
  | cases _ _ v otherwise => calls v ++ calls otherwise
  | mapped _ _ v => calls v
  | chained _ _ v => calls v
  | each _ _ v _ _ => calls v
  | entries _ _ _ k v _ _ => calls k ++ calls v
  | tuple vs => callsOf vs
  | inlined _ _ _ _ v => calls v
  | construct _ fields _ => fieldCalls fields
  | _ => []

/-- The calls in expressions. -/
def callsOf : List Value → List RoutineCall
  | [] => []
  | v :: rest => calls v ++ callsOf rest

/-- The calls in fields. -/
def fieldCalls : List (String × Value) → List RoutineCall
  | [] => []
  | (_, v) :: rest => calls v ++ fieldCalls rest

end

theorem StandsIn.calls_eq_nil {v : Value} (h : v.StandsIn) : v.calls = [] := by
  cases h <;> rfl

end Value

/-- The calls in the fields of a routine. -/
def PrimaryRoutine.calls (r : PrimaryRoutine) : List RoutineCall := r.literal.calls

/-- The parameter of a routine that goes by a name and a type. -/
def Mapping.parameter? (m : Mapping) (key : String × TypeRef) : Option EntryParameter :=
  m.entryParameters.find? fun p => p.key == key

theorem Mapping.parameter?_eq_some {m : Mapping} {key : String × TypeRef} {p : EntryParameter}
    (h : m.parameter? key = some p) : p ∈ m.entryParameters ∧ p.key = key :=
  ⟨List.mem_of_find?_eq_some h, by simpa using List.find?_some h⟩

namespace Emitter

variable {e : Emitter}

/-! ## 2. Single calls -/

/-- **The call that a delegate call becomes**: it names the routine of its target, awaits one that
is asynchronous, and for each parameter of the target it gives the one of the calling routine that
goes by the same name and type. -/
structure Makes (e : Emitter) (d : DelegateCall) (c : RoutineCall) : Prop where
  target : d.target = some c.target
  routine : e.names.routine c.target = .ok c.routine
  own : c.own = decide (c.target = e.id)
  arguments : ∃ k, e.arena.get? c.target = some k ∧ c.isAsync = k.isAsync ∧
    List.Forall₂ (fun q name => ∃ p, e.mapping.parameter? q.key = some p ∧
      Code.name? p.name = some name) k.entryParameters c.arguments

/-- The calls are those that strategies ask for, in order. -/
def MakesAll (e : Emitter) (ss : List Strategy) (cs : List RoutineCall) : Prop :=
  List.Forall₂ e.Makes (ss.filterMap Strategy.delegate?) cs

theorem MakesAll.append {ss ts : List Strategy} {cs ds : List RoutineCall}
    (hs : e.MakesAll ss cs) (ht : e.MakesAll ts ds) : e.MakesAll (ss ++ ts) (cs ++ ds) := by
  unfold MakesAll
  rw [List.filterMap_append]
  exact List.rel_append hs ht

/-- A parameter is found by its name and its type. -/
theorem parameter_gives (key : String × TypeRef) :
    Gives (fun name => ∃ p, e.mapping.parameter? key = some p ∧ Code.name? p.name = some name)
      (e.parameter key) := by
  unfold parameter
  split
  · rename_i p hp
    exact (gives_ofOption _ _).imp fun name hname => ⟨p, hp, hname⟩
  · exact gives_error _

/-- The parameters of a routine have the names of those of its mapping. -/
theorem parameters_gives : Gives (List.Forall₂ (fun p r => Code.name? p.name = some r.1)
    e.mapping.entryParameters) e.parameters :=
  gives_mapM fun _ _ => (gives_ofOption _ _).bind fun _ hname => (gives_true _).bind fun _ _ =>
    gives_ok hname

/-- A delegate call becomes one call. -/
theorem callRoutine_makes (d : DelegateCall) (p : Place) :
    Gives (fun v => ∃ c, v.calls = [c] ∧ e.Makes d c) (e.callRoutine d p) := by
  refine (gives_ofOption _ _).bind fun id hid => (gives_ofOption _ _).bind fun k hk => ?_
  refine (gives_self _).bind fun routine hroutine => ?_
  refine (gives_mapM fun q _ => parameter_gives q.key).bind fun arguments harguments => ?_
  exact gives_ok ⟨_, rfl, hid, hroutine, rfl, k, hk, rfl, harguments⟩

/-! ## 3. Values -/

/-- **The calls of a conversion** are those of its strategy. -/
theorem convert_calls (s : Option Strategy) (p : Place) (byValue : Bool) :
    Gives (fun v => e.MakesAll s.toList v.calls) (e.convert s p byValue) := by
  unfold convert
  cases s with
  | none => exact gives_ok .nil
  | some t =>
      cases t with
      | method c =>
          refine (gives_true _).bind fun _ _ => (gives_true _).bind fun _ _ => ?_
          exact (gives_true _).bind fun _ _ => gives_ok .nil
      | resolver c =>
          refine (gives_true _).bind fun _ _ => (gives_true _).bind fun _ _ => ?_
          exact (gives_true _).bind fun _ _ => gives_ok .nil
      | delegate d =>
          refine (callRoutine_makes d p).imp fun v hv => ?_
          obtain ⟨c, hcalls, hmakes⟩ := hv
          rw [hcalls]
          exact .cons hmakes .nil

/-- **The calls of an expression** are those that the strategies at its sites ask for. -/
theorem Lays.makesAll {sites : List CallSite} {v : Value} (h : e.Lays sites v) :
    e.MakesAll (sites.map CallSite.strategy) v.calls := by
  induction h with
  | read | copies | tupleNil | fieldsNil => exact .nil
  | @call s p byValue v hv => exact convert_calls (some s) p byValue v hv
  | present _ ih | orStandard _ ih => exact ih
  | cases p binding _ ho ih =>
      rw [CallSite.map_strategy_within, Value.calls, ho.calls_eq_nil, List.append_nil]
      exact ih
  | each items binding target _ _ ih =>
      rw [CallSite.map_strategy_within]
      exact ih
  | entries p keyBinding valueBinding target _ _ _ ihk ihv =>
      rw [CallSite.map_strategy_within, List.map_append]
      exact ihk.append ihv
  | tupleCons _ _ ihv ihvs =>
      rw [List.map_append]
      exact ihv.append ihvs
  | fieldsCons name _ _ ihv ihfields =>
      rw [List.map_append]
      exact ihv.append ihfields

/-! ## 4. Routines -/

/-- **The routine of a mapping makes one call for each delegate call** of the mapping, and no
others; its parameters have the names of those of the mapping. -/
theorem primary_calls (h : ∀ m ∈ e.mapping.properties, m.shape ≠ .scalar → m.strategy = none) :
    Gives (fun r => List.Forall₂ (fun p r => Code.name? p.name = some r.1)
        e.mapping.entryParameters r.parameters ∧
        List.Forall₂ e.Makes e.mapping.delegates r.calls) e.primary := by
  intro r hr
  refine ⟨parameters_gives _ (primary_parts r hr).parameters, ?_⟩
  have hcalls := (primary_lays r hr).makesAll
  rw [Mapping.map_strategy_sites h] at hcalls
  exact hcalls

end Emitter

end TypeMapper

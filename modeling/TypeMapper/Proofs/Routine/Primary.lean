import TypeMapper.Proofs.Routine.Made
import TypeMapper.Proofs.Routine.Spelling
import TypeMapper.Routine.Sequence
/-!
# What a routine looks up

While a routine is written, the parameters of its helpers, the targets of its calls and the names of
their routines are looked up. Where all of them are there, it can only fail for the spelling of a
text or of a made name.

* `Emitter.Ready`: what has to be there.
* `Emitter.convert_lexical`, `slot_lexical`, `property_lexical`: function by function.
* `Emitter.primary_lexical`, `Emitter.sequence_lexical`: the routines.
-/

namespace TypeMapper

open Emit

namespace Emitter

/-- The routine takes a parameter of a key. -/
def Takes (e : Emitter) (key : String × TypeRef) : Prop :=
  ∃ p ∈ e.mapping.entryParameters, p.key = key

/-- **What the routine of a mapping looks up is there**: its mapping, the arguments of its methods
and of the constructors of its resolvers, and for each call the routine with its parameters. -/
structure Ready (e : Emitter) : Prop where
  names : e.names = RoutineNames.ofArena e.arena
  own : e.arena.get? e.id = some e.mapping
  methods : ∀ c, Strategy.method c ∈ e.mapping.strategies → ∀ p ∈ c.arguments,
    e.Takes (p.name, p.ty)
  constructors : ∀ i ∈ e.mapping.resolvers, ∀ p ∈ i.arguments, e.Takes p.key
  calls : ∀ c ∈ e.mapping.delegates, ∃ t k, c.target = some t ∧ e.arena.get? t = some k ∧
    ∀ q ∈ k.entryParameters, e.Takes q.key

variable {e : Emitter}

/-! ## 1. Calls -/

theorem parameter_lexical {key : String × TypeRef} (h : e.Takes key) :
    Lexical e.MakesName (e.parameter key) := by
  obtain ⟨p, hp, hkey⟩ := h
  unfold parameter
  cases hf : e.mapping.entryParameters.find? fun p => p.key == key with
  | some q => exact spelledName_lexical q.name
  | none => exact absurd (beq_iff_eq.mpr hkey) (List.find?_eq_none.mp hf p hp)

theorem parameters_lexical (e : Emitter) : Lexical e.MakesName e.parameters :=
  lexical_mapM fun p _ => (spelledName_lexical p.name).bind fun _ _ =>
    (e.scope.type_lexical p.ty).bind fun _ _ => lexical_ok _

theorem callMethod_lexical {c : MethodCall} (h : ∀ p ∈ c.arguments, e.Takes (p.name, p.ty))
    (p : Place) (byValue : Bool) : Lexical e.MakesName (e.callMethod c p byValue) := by
  unfold callMethod
  refine (e.scope.path_lexical c.owner).bind fun _ _ => ?_
  refine (spelledName_lexical c.name).bind fun _ _ => ?_
  exact (lexical_mapM fun a ha => parameter_lexical (h a ha)).bind fun _ _ => lexical_ok _

theorem callResolver_lexical (e : Emitter) (c : ResolverCall) (p : Place) (byValue : Bool) :
    Lexical e.MakesName (e.callResolver c p byValue) := by
  unfold callResolver
  refine (spelledName_lexical c.instanceName).bind fun _ _ => ?_
  refine (e.scope.type_lexical c.source).bind fun _ _ => ?_
  exact (e.scope.type_lexical c.destination).bind fun _ _ => lexical_ok _

theorem callRoutine_lexical (h : e.Ready) {c : DelegateCall} (hc : c ∈ e.mapping.delegates)
    (p : Place) : Lexical e.MakesName (e.callRoutine c p) := by
  obtain ⟨t, k, ht, hk, hparams⟩ := h.calls c hc
  have hroutine : Lexical e.MakesName (e.names.routine t) := by
    rw [h.names]
    exact RoutineNames.routine_lexical hk fun base hbase => .called hc ht (h.names ▸ hbase)
  unfold callRoutine
  refine lexical_bind_ofOption ht (lexical_bind_ofOption hk ?_)
  refine hroutine.bind fun _ _ => ?_
  exact (lexical_mapM fun q hq => parameter_lexical (hparams q hq)).bind fun _ _ => lexical_ok _

/-- **A value that a strategy of the mapping converts.** -/
theorem convert_lexical (h : e.Ready) {s : Option Strategy}
    (hs : ∀ t ∈ s, t ∈ e.mapping.strategies) (p : Place) (byValue : Bool) :
    Lexical e.MakesName (e.convert s p byValue) := by
  cases s with
  | none => exact lexical_ok _
  | some t =>
      have ht := hs t rfl
      cases t with
      | method c => exact callMethod_lexical (h.methods c ht) p byValue
      | resolver c => exact e.callResolver_lexical c p byValue
      | delegate c => exact callRoutine_lexical h (List.mem_filterMap.mpr ⟨_, ht, rfl⟩) p

/-! ## 2. Slots -/

theorem slot_lexical (h : e.Ready) {el : ElementMapping}
    (hs : ∀ t ∈ el.strategy, t ∈ e.mapping.strategies) (p : Place) (binding : String)
    (dropped : Value) (label : String) :
    Lexical e.MakesName (e.slot el p binding dropped label) := by
  unfold slot
  split
  · exact (convert_lexical h hs p el.byValue).bind fun _ _ => lexical_ok _
  · exact (convert_lexical h hs _ el.byValue).bind fun _ _ => lexical_ok _

theorem collection_lexical (h : e.Ready) {el : ElementMapping}
    (hs : ∀ t ∈ el.strategy, t ∈ e.mapping.strategies) (p : Place) (target : CollectionKind)
    (label : String) : Lexical e.MakesName (e.collection p target el label) := by
  unfold collection
  -- flattening changes the policy of the elements, and not their strategy
  obtain ⟨el', he, hs'⟩ : ∃ el', (if (el.onNull == some .drop) = true then
      { el with source := el.source.nonNull, onNull := none } else el) = el' ∧
      ∀ t ∈ el'.strategy, t ∈ e.mapping.strategies := by
    refine ⟨_, rfl, ?_⟩
    split <;> exact hs
  dsimp only
  rw [he]
  split
  · exact lexical_ok _
  · exact (slot_lexical h hs' _ _ _ label).bind fun _ _ => lexical_ok _

theorem entries_lexical (h : e.Ready) {k v : ElementMapping}
    (hk : ∀ t ∈ k.strategy, t ∈ e.mapping.strategies)
    (hv : ∀ t ∈ v.strategy, t ∈ e.mapping.strategies) (p : Place) (target : MapKind)
    (label : String) : Lexical e.MakesName (e.entries p target k v label) := by
  unfold entries
  refine (slot_lexical h hk _ _ _ label).bind fun _ _ => ?_
  exact (slot_lexical h hv _ _ _ label).bind fun _ _ => lexical_ok _

theorem tupleFrom_lexical (h : e.Ready) {els : List ElementMapping}
    (hs : ∀ el ∈ els, ∀ t ∈ el.strategy, t ∈ e.mapping.strategies) (p : Place) (label : String)
    (i : Nat) : Lexical e.MakesName (e.tupleFrom p label i els) := by
  induction els generalizing i with
  | nil => exact lexical_ok []
  | cons el rest ih =>
      unfold tupleFrom
      refine (slot_lexical h (hs el List.mem_cons_self) _ _ _ label).bind fun _ _ => ?_
      exact (ih (fun el' he => hs el' (List.mem_cons_of_mem el he)) (i + 1)).bind
        fun _ _ => lexical_ok _

/-! ## 3. Properties -/

section Property

variable {m : PropertyMapping}

theorem terminal_lexical (h : e.Ready) (hm : ∀ t ∈ m.strategies, t ∈ e.mapping.strategies)
    (p : Place) : Lexical e.MakesName (e.terminal m p) := by
  have hel : ∀ el ∈ m.shape.elements, ∀ t ∈ el.strategy, t ∈ e.mapping.strategies :=
    fun el he t ht => hm t (PropertyMapping.mem_strategies_of_element he ht)
  unfold terminal
  cases hshape : m.shape with
  | scalar =>
      refine (convert_lexical h (fun t ht => hm t ?_) p _).bind fun _ _ => lexical_ok _
      exact List.mem_append_left _ (Option.mem_toList.mpr ht)
  | collection s target el =>
      rw [hshape] at hel
      exact (collection_lexical h (hel el List.mem_cons_self) p target _).bind
        fun _ _ => lexical_ok _
  | map target k v =>
      rw [hshape] at hel
      exact (entries_lexical h (hel k List.mem_cons_self)
        (hel v (List.mem_cons_of_mem k List.mem_cons_self)) p target _).bind
          fun _ _ => lexical_ok _
  | tuple els =>
      rw [hshape] at hel
      exact ((tupleFrom_lexical h hel p _ 0).map _).bind fun _ _ => lexical_ok _

theorem along_lexical (h : e.Ready) (hm : ∀ t ∈ m.strategies, t ∈ e.mapping.strategies)
    (base : Place) (i : Nat) (hops : List Hop) (hN : ∀ hop ∈ hops, ∀ policy,
      hop.onNull = some policy → e.MakesName (hop.name ++ "_value")) :
    Lexical e.MakesName (e.along m base i hops) := by
  induction hops generalizing base i with
  | nil => exact terminal_lexical h hm base
  | cons hop rest ih =>
      unfold along
      have hrest := fun base i =>
        ih base i fun hop' hmem => hN hop' (List.mem_cons_of_mem hop hmem)
      refine (spelledName_lexical hop.name).bind fun _ _ => ?_
      cases hnull : hop.onNull with
      | none => exact hrest _ (i + 1)
      | some policy =>
          refine (made_lexical (hN hop List.mem_cons_self policy hnull)).bind fun _ _ => ?_
          exact (hrest _ (i + 1)).bind fun _ _ => lexical_ok _

/-- **The value of a property of the mapping.** -/
theorem property_lexical (h : e.Ready) (hm : m ∈ e.mapping.properties) :
    Lexical e.MakesName (e.property m) := by
  unfold property
  split
  · exact (spelledName_lexical _).bind fun _ _ => lexical_ok _
  · exact along_lexical h (fun t ht => List.mem_flatMap.mpr ⟨m, hm, ht⟩) _ 0 _
      fun hop hhop policy hnull => .value hm hhop hnull

end Property

/-! ## 4. Routines -/

theorem resolverBinding_lexical (h : e.Ready) {r : ResolverInstance}
    (hr : r ∈ e.mapping.resolvers) : Lexical e.MakesName (e.resolverBinding r) := by
  unfold resolverBinding
  refine (spelledName_lexical r.ident).bind fun _ _ => ?_
  refine (e.scope.path_lexical r.path).bind fun _ _ => ?_
  refine (lexical_mapM fun a ha => ?_).bind fun _ _ => lexical_ok _
  exact parameter_lexical (h.constructors r hr a ha)

theorem field_lexical (h : e.Ready) {m : PropertyMapping} (hm : m ∈ e.mapping.properties) :
    Lexical e.MakesName (e.field m) :=
  (spelledName_lexical _).bind fun _ _ => (property_lexical h hm).bind fun _ _ => lexical_ok _

/-- **The routine of a mapping** fails only for the spelling of a text. -/
theorem primary_lexical (h : e.Ready) : Lexical e.MakesName e.primary := by
  have hname : Lexical e.MakesName (e.names.routine e.id) := by
    rw [h.names]
    exact RoutineNames.routine_lexical h.own fun base hbase => .routine (h.names ▸ hbase)
  unfold primary
  refine hname.bind fun _ _ => ?_
  refine (e.scope.path_lexical e.mapping.source).bind fun _ _ => ?_
  refine (e.scope.path_lexical e.mapping.destination).bind fun _ _ => ?_
  refine e.parameters_lexical.bind fun _ _ => ?_
  refine (lexical_mapM fun r hr => resolverBinding_lexical h hr).bind fun _ _ => ?_
  exact (lexical_mapM fun m hm => field_lexical h hm).bind fun _ _ => lexical_ok _

/-- **The routine over a sequence**, if it is asked for, fails only for the spelling of a text. -/
theorem sequence_lexical (h : e.Ready) (hask : e.config.sequenceVariant = true) :
    Lexical e.MakesName e.sequence := by
  have hname : Lexical e.MakesName (e.names.many e.id) ∧
      Lexical e.MakesName (e.names.routine e.id) := by
    rw [h.names]
    exact ⟨RoutineNames.many_lexical h.own fun base hbase => .many hask (h.names ▸ hbase),
      RoutineNames.routine_lexical h.own fun base hbase => .routine (h.names ▸ hbase)⟩
  unfold sequence
  refine hname.1.bind fun _ _ => hname.2.bind fun _ _ => ?_
  refine (e.scope.path_lexical e.mapping.source).bind fun _ _ => ?_
  refine (e.scope.path_lexical e.mapping.destination).bind fun _ _ => ?_
  exact e.parameters_lexical.bind fun _ _ => lexical_ok _

end Emitter

end TypeMapper

import TypeMapper.Proofs.Arena.Part
import TypeMapper.Proofs.Construction.Outputs
import TypeMapper.Proofs.Construction.Suitability
import TypeMapper.Proofs.Schema.Agreement
/-!
# Construction in two runs

Construction looks at the schema only along the paths that a mapping mentions, at the declared pairs
between such paths, and at two of the settings. So in another run that agrees on all that, function
by function, the same comes out: the mappings that calls are for have other ids, and settings that
are stricter about absent values change nothing but the policies of slots, where before there was an
attempt that succeeded.

* `Config.Follows`, `Builder.Follows`: what two runs have to agree on.
* `Attempt.Follows`: what an attempt comes to in the second run.
* `PropertyBuilder.shape_follows`, `plan_follows`, `hopPolicies_follows`: function by function.
* `Builder.property_follows`, `properties_follow`: the property of a pair, and those of all.
* `Mapping.view_buildFrom`: a whole mapping.
-/

namespace TypeMapper

open Attempt

/-- Settings that are at least as strict about absent values, and the same as far as one looks. -/
structure Config.Follows (v : View) (c c' : Config) : Prop where
  property : c.throwOnNullProperty = true → c'.throwOnNullProperty = true
  element : c.throwOnNullElement = true → c'.throwOnNullElement = true
  policies : v.policies = true → c'.throwOnNullProperty = c.throwOnNullProperty ∧
    c'.throwOnNullElement = c.throwOnNullElement
  variants : v.variants = true → c'.expressionVariant = c.expressionVariant ∧
    c'.maxRecursionDepth = c.maxRecursionDepth

/-! ## 1. Attempts -/

namespace Attempt

variable {α β γ δ : Type} {v : View} {R : α → β → Prop} {S : γ → δ → Prop}

/-- What an attempt comes to in another run: if it succeeds, so does the other one, and so does the
failure if one looks at the policies of slots. -/
def Follows (v : View) (R : α → β → Prop) : Attempt α → Attempt β → Prop
  | .ok a, .ok b => R a b
  | .ok _, .error _ => False
  | .error ds, .error es => v.policies = true → es = ds
  | .error _, .ok _ => v.policies = false

theorem follows_ok {a : α} {b : β} (h : R a b) : Follows v R (.ok a) (.ok b) := h

theorem follows_error (ds : List Diagnostic) : Follows v R (.error ds) (.error ds) := fun _ => rfl

/-- Nothing is asked of the other run where an attempt fails and the policies are not looked at. -/
theorem follows_lost (h : v.policies = false) (ds : List Diagnostic) (y : Attempt β) :
    Follows v R (.error ds) y := by
  cases y with
  | ok b => exact h
  | error es => exact fun hv => absurd (h.symm.trans hv) Bool.noConfusion

theorem follows_self {R : α → α → Prop} {x : Attempt α} (h : Gives (fun a => R a a) x) :
    Follows v R x x := by
  cases x with
  | ok a => exact h a rfl
  | error ds => exact follows_error ds

theorem Follows.bind {x : Attempt α} {y : Attempt β} {f : α → Attempt γ} {g : β → Attempt δ}
    (h : Follows v R x y) (hf : ∀ a b, R a b → Follows v S (f a) (g b)) :
    Follows v S (x >>= f) (y >>= g) := by
  cases x with
  | ok a =>
      cases y with
      | ok b => exact hf a b h
      | error es => exact h.elim
  | error ds =>
      cases y with
      | ok b => exact follows_lost h ds _
      | error es => exact h

theorem Follows.map {x : Attempt α} {y : Attempt β} {f : α → γ} {g : β → δ}
    (h : Follows v R x y) (hf : ∀ a b, R a b → S (f a) (g b)) :
    Follows v S (x.map f) (y.map g) := by
  have hbind : Follows v S (x >>= fun a => .ok (f a)) (y >>= fun b => .ok (g b)) := h.bind hf
  cases x <;> cases y <;> exact hbind

theorem Follows.both {x : Attempt α} {y : Attempt β} {x' : Attempt γ} {y' : Attempt δ}
    (h : Follows v R x y) (h' : Follows v S x' y') :
    Follows v (fun p q => R p.1 q.1 ∧ S p.2 q.2) (both x x') (both y y') := by
  cases x with
  | ok a =>
      cases y with
      | error es => exact h.elim
      | ok b =>
          cases x' <;> cases y'
          · exact h'
          · exact h'
          · exact h'.elim
          · exact ⟨h, h'⟩
  | error ds =>
      cases y with
      | ok b => cases x' <;> exact follows_lost h _ _
      | error es =>
          cases x' <;> cases y'
          · exact fun hv => congrArg₂ (· ++ ·) (h hv) (h' hv)
          · exact follows_lost h' _ _
          · exact h'.elim
          · exact h

/-- All values of two lists, one by one. -/
theorem Follows.all {xs : List (Attempt α)} {ys : List (Attempt β)}
    (h : List.Forall₂ (Follows v R) xs ys) : Follows v (List.Forall₂ R) (all xs) (all ys) := by
  induction h with
  | nil => exact follows_ok .nil
  | cons hxy _ ih => exact (hxy.both ih).map fun _ _ hpq => .cons hpq.1 hpq.2

end Attempt

/-! ## 2. What is made -/

/-- Both types of a pair are at paths of a set. -/
def MappingKey.Within (K : String → Prop) (k : MappingKey) : Prop := K k.source ∧ K k.destination

/-- The call of a strategy, if it is one, is for a pair of types at paths of a set. -/
def Strategy.Within (K : String → Prop) (s : Strategy) : Prop := ∀ d ∈ s.delegate?, d.key.Within K

/-- The strategy with another id for the target of its call. -/
def Strategy.rename (σ : MappingId → MappingId) (s : Strategy) : Strategy :=
  s.mapDelegate (DelegateCall.rename σ)

@[simp] theorem Strategy.kind_mapDelegate (f : DelegateCall → DelegateCall) (s : Strategy) :
    (s.mapDelegate f).kind = s.kind := by cases s <;> rfl

/-- The slot with another id for the target of its call. -/
def ElementMapping.rename (σ : MappingId → MappingId) (e : ElementMapping) : ElementMapping :=
  { e with strategy := e.strategy.map (Strategy.rename σ) }

/-- What a strategy becomes in another run. -/
def Strategy.Becomes (σ : MappingId → MappingId) (K : String → Prop) (s s' : Strategy) : Prop :=
  s' = s.rename σ ∧ s.Within K

/-- What a strategy that may be missing becomes. -/
def Strategy.BecomesOption (σ : MappingId → MappingId) (K : String → Prop)
    (o o' : Option Strategy) : Prop := o' = o.map (Strategy.rename σ) ∧ ∀ s ∈ o, s.Within K

/-- What a slot becomes, as far as one looks at it. -/
def ElementMapping.Becomes (v : View) (σ : MappingId → MappingId) (K : String → Prop)
    (e e' : ElementMapping) : Prop :=
  v.element e' = v.element (e.rename σ) ∧ ∀ s ∈ e.strategy, s.Within K

/-- What a container becomes. -/
def Shape.Becomes (v : View) (σ : MappingId → MappingId) (K : String → Prop) (sh sh' : Shape) :
    Prop :=
  sh'.mapElements v.element =
      (sh.mapElements (ElementMapping.rename σ)).mapElements v.element ∧
    ∀ e ∈ sh.elements, ∀ s ∈ e.strategy, s.Within K

/-- What a plan becomes. -/
def Plan.Becomes (v : View) (σ : MappingId → MappingId) (K : String → Prop) : Plan → Plan → Prop
  | .copy, .copy => True
  | .strategy s, .strategy s' => s.Becomes σ K s'
  | .shape sh, .shape sh' => sh.Becomes v σ K sh'
  | _, _ => False

/-- What a property becomes. -/
def PropertyMapping.Becomes (v : View) (σ : MappingId → MappingId) (K : String → Prop)
    (p p' : PropertyMapping) : Prop :=
  v.property p' = v.property (p.mapDelegates (DelegateCall.rename σ)) ∧
    ∀ s ∈ p.strategies, s.Within K

/-- What two runs have to agree on. -/
structure BuildContext.Follows (v : View) (K : String → Prop) (c c' : BuildContext) : Prop where
  schema : c.schema.AgreesOn K c'.schema
  config : c.config.Follows v c'.config
  declared : ∀ k : MappingKey, k.Within K → c'.declared.contains k = c.declared.contains k

/-- What they have to agree on for one mapping. -/
structure Builder.Follows (v : View) (σ : MappingId → MappingId) (K : String → Prop)
    (b b' : Builder) : Prop where
  context : b.toBuildContext.Follows v K b'.toBuildContext
  key : b'.key = b.key
  within : b.key.Within K
  own : b'.own = σ b.own

/-- What they have to agree on for one property. -/
structure PropertyBuilder.Follows (v : View) (σ : MappingId → MappingId) (K : String → Prop)
    (b b' : PropertyBuilder) : Prop where
  builder : b.toBuilder.Follows v σ K b'.toBuilder
  place : b'.place = b.place
  directives : b'.directives = b.directives

section Views

variable {v : View} {σ : MappingId → MappingId} {K : String → Prop}

theorem Strategy.BecomesOption.none : BecomesOption σ K none none := ⟨rfl, nofun⟩

theorem Plan.Becomes.acceptsNull {plan plan' : Plan} (h : plan.Becomes v σ K plan') :
    PropertyBuilder.Plan.acceptsNull plan' = PropertyBuilder.Plan.acceptsNull plan := by
  cases plan <;> cases plan' <;> try exact h.elim
  · rfl
  · rename_i s s'
    obtain ⟨rfl, -⟩ := h
    exact s.acceptsNull_mapDelegate _
  · rfl

theorem Plan.Becomes.absorbsNull {plan plan' : Plan} (h : plan.Becomes v σ K plan') :
    PropertyBuilder.Plan.absorbsNull plan' = PropertyBuilder.Plan.absorbsNull plan := by
  cases plan <;> cases plan' <;> try exact h.elim
  · rfl
  · rfl
  · have habsorbs := congrArg Shape.absorbsNull h.1
    rw [Shape.absorbsNull_mapElements, Shape.absorbsNull_mapElements,
      Shape.absorbsNull_mapElements] at habsorbs
    exact habsorbs

/-- The mapping of a plan along the same links. -/
theorem Plan.Becomes.toMapping {plan plan' : Plan} (h : plan.Becomes v σ K plan') (hops : List Hop)
    (e : PropertyEnd) (d : PropertyDirectives) :
    (plan.toMapping hops e d).Becomes v σ K (plan'.toMapping hops e d) := by
  cases plan <;> cases plan' <;> try exact h.elim
  · exact ⟨rfl, fun s hs => absurd hs List.not_mem_nil⟩
  · rename_i s s'
    obtain ⟨rfl, hwithin⟩ := h
    exact ⟨rfl, fun t ht => List.mem_singleton.mp ht ▸ hwithin⟩
  · rename_i sh sh'
    refine ⟨?_, fun s hs => ?_⟩
    · exact congrArg (fun sh : Shape => (⟨hops, e, none, sh, d.ignoreNull, d.maxRecursionDepth⟩ :
        PropertyMapping)) h.1
    · obtain ⟨el, hel, hs⟩ := List.mem_filterMap.mp hs
      exact h.2 el hel s hs

end Views

/-! ## 3. Slots -/

namespace PropertyBuilder

variable {v : View} {σ : MappingId → MappingId} {K : String → Prop} {b b' : PropertyBuilder}
  {slot : Slot} {source destination : TypeRef} (hb : b.Follows v σ K b')

include hb

theorem fail_eq {α : Type} (code : DiagnosticCode) (message : String) :
    (b'.fail code message : Attempt α) = b.fail code message :=
  congrArg (Attempt.fail code · message) hb.place

theorem fail_follows {α β : Type} {R : α → β → Prop} (code : DiagnosticCode) (message : String) :
    Attempt.Follows v R (b.fail code message) (b'.fail code message) := by
  rw [fail_eq hb]
  exact follows_error _

/-- A call goes to the mapping of its pair, which has another id. -/
theorem delegate_becomes {k : MappingKey} (hk : k.Within K) :
    (b.delegate k).Becomes σ K (b'.delegate k) := by
  refine ⟨?_, fun d hd => Option.some.inj hd ▸ hk⟩
  unfold Builder.delegate
  rw [hb.builder.key, hb.builder.own]
  show Strategy.delegate _ = Strategy.delegate _
  unfold DelegateCall.rename
  dsimp only
  split <;> rfl

/-- The same pairs are declared. -/
theorem declaredPair?_eq (hs : source.Within K) (hd : destination.Within K) :
    b'.declaredPair? source destination = b.declaredPair? source destination := by
  unfold BuildContext.declaredPair?
  split
  · rename_i p q hp hq
    rw [hb.builder.context.declared ⟨p, q⟩ ⟨hs.of_objectPath? hp, hd.of_objectPath? hq⟩]
  · rfl

omit hb in
theorem within_of_declaredPair? {k : MappingKey} (hs : source.Within K) (hd : destination.Within K)
    (hk : b.declaredPair? source destination = some k) : k.Within K := by
  obtain ⟨hsource, hdest⟩ := BuildContext.declaredPair?_eq_some hk
  exact ⟨hs.of_objectPath? hsource, hd.of_objectPath? hdest⟩

theorem checkOutput_eq (s : Strategy) (destination : TypeRef) :
    b'.checkOutput (s.rename σ) destination = b.checkOutput s destination := by
  unfold checkOutput
  rw [Strategy.rename, Strategy.output?_mapDelegate, Strategy.kind_mapDelegate, hb.directives]
  simp only [fail_eq hb]

theorem slotStrategy_follows (hs : source.Within K) (hd : destination.Within K) :
    Attempt.Follows v (Strategy.BecomesOption σ K) (b.slotStrategy source destination)
      (b'.slotStrategy source destination) := by
  unfold slotStrategy
  rw [declaredPair?_eq hb hs hd]
  split
  · rename_i k hk
    obtain ⟨heq, hwithin⟩ := delegate_becomes hb (within_of_declaredPair? hs hd hk)
    refine follows_ok ⟨congrArg some heq, fun s hmem => ?_⟩
    rw [← Option.some.inj hmem]
    exact hwithin
  · split
    · exact follows_ok ⟨rfl, nofun⟩
    · exact fail_follows hb _ _

/-- **The policy of a slot**: stricter settings refuse what others drop. -/
theorem slotPolicy_follows (slot : Slot) (source destination : TypeRef) :
    Attempt.Follows v (fun policy policy' => v.policies = true → policy' = policy)
      (b.slotPolicy slot source destination) (b'.slotPolicy slot source destination) := by
  have helement := hb.builder.context.config.element
  have hpolicies := hb.builder.context.config.policies
  unfold slotPolicy
  rw [hb.directives]
  split
  · split
    · exact follows_ok fun _ => rfl
    · cases hflag : b.config.throwOnNullElement with
      | true =>
          rw [helement hflag]
          exact follows_ok fun _ => rfl
      | false =>
          cases hv : v.policies with
          | false => exact follows_lost hv _ _
          | true =>
              rw [(hpolicies hv).2, hflag]
              exact fail_follows hb _ _
  · cases hv : v.policies with
    | true =>
        rw [(hpolicies hv).2]
        exact follows_self fun _ _ _ => rfl
    | false => split <;> split <;> exact follows_ok fun hno => absurd hno Bool.false_ne_true

theorem slotPolicy?_follows (o : Option Strategy) :
    Attempt.Follows v (fun policy policy' => v.policies = true → policy' = policy)
      (b.slotPolicy? slot o source destination)
      (b'.slotPolicy? slot (o.map (Strategy.rename σ)) source destination) := by
  have haccepts : ((o.map (Strategy.rename σ)).map Strategy.acceptsNull).getD false =
      (o.map Strategy.acceptsNull).getD false := by
    cases o with
    | none => rfl
    | some s => exact s.acceptsNull_mapDelegate _
  unfold slotPolicy?
  rw [haccepts]
  split
  · exact follows_ok fun _ => rfl
  · split
    · exact follows_ok fun _ => rfl
    · exact (slotPolicy_follows hb slot source destination).map fun _ _ h hv => congrArg some (h hv)

/-- **A slot** becomes the same, for its policy one has to look. -/
theorem element_follows {o o' : Option Strategy} (ho : Strategy.BecomesOption σ K o o')
    (hs : source.Within K) (hd : destination.Within K) :
    Attempt.Follows v (ElementMapping.Becomes v σ K) (b.element slot o source destination)
      (b'.element slot o' source destination) := by
  have hrest (q : Option Strategy) (hq : ∀ s ∈ q, s.Within K) :
      Attempt.Follows v (ElementMapping.Becomes v σ K)
        ((do
          let policy ← b.slotPolicy? slot q source destination
          return ⟨source, destination, b.schema.isByValue source, q, policy⟩) :
            Attempt ElementMapping)
        ((do
          let policy ← b'.slotPolicy? slot (q.map (Strategy.rename σ)) source destination
          return ⟨source, destination, b'.schema.isByValue source, q.map (Strategy.rename σ),
            policy⟩) : Attempt ElementMapping) := by
    refine (slotPolicy?_follows hb q).bind fun policy policy' hpolicy => follows_ok ⟨?_, hq⟩
    rw [hb.builder.context.schema.isByValue hs]
    unfold View.element
    split
    · rename_i hv
      rw [hpolicy hv]
      rfl
    · rfl
  have hchecked (s : Strategy) (hs : s.Within K) :
      Attempt.Follows v (ElementMapping.Becomes v σ K)
        ((do
          b.checkOutput s destination
          let policy ← b.slotPolicy? slot (some s) source destination
          return ⟨source, destination, b.schema.isByValue source, some s, policy⟩) :
            Attempt ElementMapping)
        ((do
          b'.checkOutput (s.rename σ) destination
          let policy ← b'.slotPolicy? slot (some (s.rename σ)) source destination
          return ⟨source, destination, b'.schema.isByValue source, some (s.rename σ), policy⟩) :
            Attempt ElementMapping) := by
    rw [checkOutput_eq hb]
    exact (follows_self (R := fun _ _ => True) (gives_true _)).bind fun _ _ _ =>
      hrest (some s) fun t ht => Option.some.inj ht ▸ hs
  obtain ⟨rfl, hwithin⟩ := ho
  unfold element
  cases o with
  | some s => exact hchecked s (hwithin s rfl)
  | none =>
      refine (slotStrategy_follows hb hs hd).bind fun q q' hq => ?_
      obtain ⟨rfl, hwithin⟩ := hq
      cases q with
      | some s => exact hchecked s (hwithin s rfl)
      | none => exact hrest none nofun

omit hb in
/-- A slot that becomes another one makes a container that becomes another one. -/
theorem shape_becomes_collection {j k : CollectionKind} {e e' : ElementMapping}
    (h : e.Becomes v σ K e') :
    Shape.Becomes v σ K (.collection j k e) (.collection j k e') := by
  refine ⟨congrArg (Shape.collection j k) h.1, fun el hel => ?_⟩
  rw [List.mem_singleton.mp hel]
  exact h.2

/-- The slots of a tuple, one by one. -/
theorem elements_follow {as bs : List TypeRef} (has : ∀ t ∈ as, t.Within K)
    (hbs : ∀ t ∈ bs, t.Within K) :
    List.Forall₂ (Attempt.Follows v (ElementMapping.Becomes v σ K))
      (List.zipWith (b.element .tuple none) as bs)
      (List.zipWith (b'.element .tuple none) as bs) := by
  induction as generalizing bs with
  | nil => exact .nil
  | cons a as ih =>
      cases bs with
      | nil => exact .nil
      | cons d bs =>
          rw [List.forall_mem_cons] at has hbs
          exact .cons (element_follows hb .none has.1 hbs.1) (ih has.2 hbs.2)

/-- **A container** becomes the same, slot by slot. -/
theorem shape_follows {o o' : Option Strategy} (ho : Strategy.BecomesOption σ K o o')
    (hs : source.Within K) (hd : destination.Within K) :
    Attempt.Follows v (Shape.Becomes v σ K) (b.shape o source destination)
      (b'.shape o' source destination) := by
  unfold shape
  split
  · refine Attempt.Follows.map (element_follows hb ho ?_ ?_) fun _ _ => shape_becomes_collection
    · exact hs
    · exact hd
  · have hkey := fun p hp => hs p (List.mem_append_left _ hp)
    have hvalue := fun p hp => hs p (List.mem_append_right _ hp)
    have hkey' := fun p hp => hd p (List.mem_append_left _ hp)
    have hvalue' := fun p hp => hd p (List.mem_append_right _ hp)
    refine ((element_follows hb .none hkey hkey').both
      (element_follows hb ho hvalue hvalue')).map fun p q hpq => ?_
    refine ⟨congrArg₂ (Shape.map _) hpq.1.1 hpq.2.1, fun e he => ?_⟩
    rcases List.mem_cons.mp he with rfl | he
    · exact hpq.1.2
    · rw [List.mem_singleton.mp he]
      exact hpq.2.2
  · split
    · have hall := Attempt.Follows.all (elements_follow hb
        (fun t ht p hp => hs p (TypeRef.mem_objectPathsOf ht hp))
        fun t ht p hp => hd p (TypeRef.mem_objectPathsOf ht hp))
      refine hall.map fun es es' hes => ?_
      refine ⟨congrArg Shape.tuple ?_, fun e he => ?_⟩
      · rw [List.map_map]
        induction hes with
        | nil => rfl
        | cons h _ ih => exact congrArg₂ List.cons h.1 ih
      · obtain ⟨e', -, hbecomes⟩ := exists_of_mem_left hes he
        exact hbecomes.2
    · exact fail_follows hb _ _
  · exact fail_follows hb _ _

/-! ## 4. Plans -/

theorem structural_follows (hs : source.Within K) (hd : destination.Within K) :
    Attempt.Follows v (Plan.Becomes v σ K) (b.structural source destination)
      (b'.structural source destination) := by
  unfold structural
  split
  · exact (shape_follows hb .none hs hd).map fun _ _ h => h
  · rw [declaredPair?_eq hb hs hd]
    split
    · rename_i k hk
      exact follows_ok (delegate_becomes hb (within_of_declaredPair? hs hd hk))
    · split
      · exact follows_ok trivial
      · exact fail_follows hb _ _

theorem methodCandidates_eq (name : String) :
    b'.methodCandidates name = b.methodCandidates name := by
  have hschema := hb.builder.context.schema
  have hwithin := hb.builder.within
  rw [methodCandidates, methodCandidates, hb.builder.key, hschema.methodsNamed hwithin.1,
    hschema.methodsNamed hwithin.2]

/-- **A method** is looked up with the same result. -/
theorem findMethod_eq (h : Helpers) (name : String) (subject returns : TypeRef) :
    b'.findMethod h name subject returns = b.findMethod h name subject returns := by
  simp only [findMethod, methodCandidates_eq hb, fail_eq hb, hb.builder.key]

omit hb in
theorem findMethod_gives (b : PropertyBuilder) (h : Helpers) (name : String)
    (subject returns : TypeRef) :
    Gives (fun s : Strategy => s.delegate? = none) (b.findMethod h name subject returns).1 := by
  unfold findMethod
  dsimp only
  split
  · exact gives_error _
  · split
    · exact gives_error _
    · exact gives_ok rfl
    · exact gives_error _

omit hb in
theorem becomes_of_delegate? {s : Strategy} (h : s.delegate? = none) : s.Becomes σ K s := by
  refine ⟨?_, fun d hd => absurd (h.symm.trans hd) (Option.some_ne_none d).symm⟩
  cases s with
  | delegate d => cases h
  | method c => rfl
  | resolver c => rfl

omit hb in
theorem within_helperSlot (whole : Bool) (hs : source.Within K) (hd : destination.Within K) :
    (helperSlot whole source destination).1.Within K ∧
      (helperSlot whole source destination).2.Within K := by
  unfold helperSlot
  split
  · exact ⟨hs, hd⟩
  · split
    · exact ⟨hs, hd⟩
    · exact ⟨fun p hp => hs p (List.mem_append_right _ hp),
        fun p hp => hd p (List.mem_append_right _ hp)⟩
    · exact ⟨hs, hd⟩

theorem checkHelper_eq (c : Conversion) (hs : source.Within K) (hd : destination.Within K) :
    b'.checkHelper c source destination = b.checkHelper c source destination := by
  have hslot := within_helperSlot b.directives.completeCollection hs hd
  unfold checkHelper
  dsimp only
  rw [hb.directives, declaredPair?_eq hb hslot.1 hslot.2]
  simp only [fail_eq hb]

/-- **The strategy that a directive names** becomes the same, and needs the same helpers. -/
theorem explicit_follows (h : Helpers) {c : Conversion} (hc : c.Within K)
    (source destination : TypeRef) :
    (b'.explicit h c source destination).2 = (b.explicit h c source destination).2 ∧
      Attempt.Follows v (Strategy.Becomes σ K) (b.explicit h c source destination).1
        (b'.explicit h c source destination).1 := by
  have hschema := hb.builder.context.schema
  cases c with
  | resolver path =>
      unfold explicit
      dsimp only
      rw [Schema.resolver?, hschema.resolvers, ← Schema.resolver?]
      split
      · exact ⟨rfl, follows_ok (becomes_of_delegate? rfl)⟩
      · exact ⟨rfl, fail_follows hb _ _⟩
  | method name =>
      unfold explicit
      dsimp only
      rw [hb.directives, findMethod_eq hb]
      exact ⟨rfl, follows_self fun s hs =>
        becomes_of_delegate? (findMethod_gives b h name _ _ s hs)⟩
  | mapper p q =>
      have hfind : ([p, q].find? fun path => !b'.schema.hasType path) =
          [p, q].find? fun path => !b.schema.hasType path := by
        simp only [List.find?_cons, List.find?_nil, hschema.hasType hc.1, hschema.hasType hc.2]
      unfold explicit
      dsimp only
      rw [hfind]
      split
      · exact ⟨rfl, fail_follows hb _ _⟩
      · exact ⟨rfl, follows_ok (delegate_becomes hb hc)⟩

theorem applyStrategy_follows {s s' : Strategy} (hstrategy : s.Becomes σ K s')
    (hs : source.Within K) (hd : destination.Within K) :
    Attempt.Follows v (Plan.Becomes v σ K) (b.applyStrategy s source destination)
      (b'.applyStrategy s' source destination) := by
  obtain ⟨rfl, hwithin⟩ := hstrategy
  unfold applyStrategy
  rw [hb.directives]
  split
  · refine (shape_follows hb ⟨rfl, fun t ht => ?_⟩ hs hd).map fun _ _ h => h
    exact Option.some.inj ht ▸ hwithin
  · rw [checkOutput_eq hb]
    exact (follows_self (R := fun _ _ => True) (gives_true _)).bind
      fun _ _ _ => follows_ok ⟨rfl, hwithin⟩

/-- **A plan** becomes the same, and needs the same helpers. -/
theorem plan_follows (h : Helpers) (hc : ∀ c ∈ b.directives.conversion, c.Within K)
    (hs : source.Within K) (hd : destination.Within K) :
    (b'.plan h source destination).2 = (b.plan h source destination).2 ∧
      Attempt.Follows v (Plan.Becomes v σ K) (b.plan h source destination).1
        (b'.plan h source destination).1 := by
  unfold plan
  rw [hb.directives]
  cases hconversion : b.directives.conversion with
  | none => exact ⟨rfl, structural_follows hb hs hd⟩
  | some c =>
      dsimp only
      rw [checkHelper_eq hb c hs hd]
      cases b.checkHelper c source destination with
      | error ds => exact ⟨rfl, follows_error ds⟩
      | ok _ =>
          obtain ⟨hhelpers, hfollows⟩ := explicit_follows hb h (hc c hconversion) source destination
          dsimp only
          revert hhelpers hfollows
          generalize b.explicit h c source destination = x
          generalize b'.explicit h c source destination = y
          obtain ⟨x, k⟩ := x
          obtain ⟨y, k'⟩ := y
          rintro ⟨⟩ hfollows
          cases x with
          | error ds =>
              cases y with
              | error es => exact ⟨rfl, hfollows⟩
              | ok s' => exact ⟨rfl, follows_lost hfollows _ _⟩
          | ok s =>
              cases y with
              | error es => exact hfollows.elim
              | ok s' => exact ⟨rfl, applyStrategy_follows hb hfollows hs hd⟩

/-! ## 5. Chains -/

/-- How a link is refused that is left without a policy. -/
def refusal (plan : Plan) (e : PropertyEnd) (terminal : Bool) (path : String) :
    DiagnosticCode × String :=
  if terminal && (plan matches .strategy _) then
    (.incompatibleStrategyNullability,
      "nullable source '" ++ path ++ "' is passed to a strategy that requires a value")
  else
    (.nullabilityMismatch,
      "nullable source '" ++ path ++ "' maps to non-nullable '" ++ e.name ++ "'")

omit hb in
theorem hopPolicy_eq (b : PropertyBuilder) (plan : Plan) (e : PropertyEnd) (terminal : Bool)
    (before : List String) (hop : Hop) : b.hopPolicy plan e terminal before hop =
      if !hop.nullable || (terminal && Plan.acceptsNull plan) then .ok none
      else if e.nullable then .ok (some .propagate)
      else if terminal && Plan.absorbsNull plan then .ok (some .fallback)
      else if b.directives.ignoreNull then .ok (some .fallback)
      else if !terminal && b.config.throwOnNullProperty then .ok (some .guard)
      else b.fail (refusal plan e terminal (".".intercalate before)).1
        (refusal plan e terminal (".".intercalate before)).2 := by
  unfold hopPolicy refusal
  cases plan <;> cases terminal <;> rfl

omit hb in
theorem refusal_eq {plan plan' : Plan} (h : plan.Becomes v σ K plan') :
    refusal plan' = refusal plan := by
  cases plan <;> cases plan' <;> first | exact h.elim | rfl

/-- **The policy of a link** is the same where there is one at all. -/
theorem hopPolicy_follows {plan plan' : Plan} (hplan : plan.Becomes v σ K plan') (e : PropertyEnd)
    (terminal : Bool) (before : List String) (hop : Hop) :
    Attempt.Follows v Eq (b.hopPolicy plan e terminal before hop)
      (b'.hopPolicy plan' e terminal before hop) := by
  have hflags := hb.builder.context.config
  rw [hopPolicy_eq, hopPolicy_eq, hplan.acceptsNull, hplan.absorbsNull, refusal_eq hplan,
    hb.directives]
  split
  · exact follows_ok rfl
  · split
    · exact follows_ok rfl
    · split
      · exact follows_ok rfl
      · split
        · exact follows_ok rfl
        · cases hflag : b.config.throwOnNullProperty with
          | true =>
              rw [hflags.property hflag]
              split
              · exact follows_ok rfl
              · exact fail_follows hb _ _
          | false =>
              rw [Bool.and_false, if_neg Bool.false_ne_true]
              cases hv : v.policies with
              | true =>
                  rw [(hflags.policies hv).1, hflag, Bool.and_false, if_neg Bool.false_ne_true]
                  exact fail_follows hb _ _
              | false => exact follows_lost hv _ _

theorem hopPolicies_follows {plan plan' : Plan} (hplan : plan.Becomes v σ K plan')
    (e : PropertyEnd) (before : List String) (hops : List Hop) :
    Attempt.Follows v Eq (b.hopPolicies plan e before hops)
      (b'.hopPolicies plan' e before hops) := by
  induction hops generalizing before with
  | nil => exact follows_ok rfl
  | cons hop rest ih =>
      unfold hopPolicies
      refine ((hopPolicy_follows hb hplan e _ _ hop).both (ih _)).map fun p q hpq => ?_
      rw [hpq.1, hpq.2]

end PropertyBuilder

/-! ## 6. Properties -/

/-- The context of the property of a pair. -/
def Builder.forProperty (b : Builder) (m : PropertyMatch) : PropertyBuilder :=
  ⟨b, Location.ofProperty b.key.destination m.destination.name, m.directives⟩

/-- The property along a chain by a plan, if there is one. -/
def PropertyBuilder.along (b : PropertyBuilder) (hops : List Hop) (e : PropertyEnd) :
    Attempt Plan × Helpers → Attempt PropertyMapping × Helpers
  | (.error ds, h) => (.error ds, h)
  | (.ok plan, h) =>
    ((b.hopPolicies plan e [] hops).map fun hops => plan.toMapping hops e b.directives, h)

/-- From the same plan along the same chain comes the same property. -/
theorem PropertyBuilder.along_follows {v : View} {σ : MappingId → MappingId} {K : String → Prop}
    {b b' : PropertyBuilder} (hb : b.Follows v σ K b') {x y : Attempt Plan × Helpers}
    (hhelpers : y.2 = x.2) (hplan : Attempt.Follows v (Plan.Becomes v σ K) x.1 y.1)
    (hops : List Hop) (e : PropertyEnd) :
    (b'.along hops e y).2 = (b.along hops e x).2 ∧
      Attempt.Follows v (PropertyMapping.Becomes v σ K) (b.along hops e x).1
        (b'.along hops e y).1 := by
  obtain ⟨ds | plan, k⟩ := x <;> obtain ⟨es | plan', k'⟩ := y
  · exact ⟨hhelpers, hplan⟩
  · exact ⟨hhelpers, follows_lost hplan _ _⟩
  · exact hplan.elim
  · refine ⟨hhelpers, (hopPolicies_follows hb hplan e [] hops).map fun hops hops' heq => ?_⟩
    rw [← heq, hb.directives]
    exact hplan.toMapping hops e _

namespace Builder

theorem property_eq (b : Builder) (h : Helpers) {m : PropertyMatch} {last : Hop}
    (hlast : (m.source.map Hop.ofProperty).getLast? = some last) :
    b.property h m = (b.forProperty m).along (m.source.map Hop.ofProperty)
      (PropertyEnd.ofProperty m.destination)
      ((b.forProperty m).plan h last.ty m.destination.ty) := by
  unfold property
  dsimp only
  rw [hlast]
  rfl

variable {v : View} {σ : MappingId → MappingId} {K : String → Prop} {b b' : Builder}
  (hb : b.Follows v σ K b')

include hb

/-- **The property of a pair** becomes the same, and needs the same helpers. -/
theorem property_follows (h : Helpers) {m : PropertyMatch} (hm : m.Within K)
    (hsource : m.source ≠ []) :
    (b'.property h m).2 = (b.property h m).2 ∧
      Attempt.Follows v (PropertyMapping.Becomes v σ K) (b.property h m).1 (b'.property h m).1 := by
  have hproperty : (b.forProperty m).Follows v σ K (b'.forProperty m) :=
    ⟨hb, congrArg (fun k : MappingKey => Location.ofProperty k.destination m.destination.name)
      hb.key, rfl⟩
  have hlast : (m.source.map Hop.ofProperty).getLast? =
      some (Hop.ofProperty (m.source.getLast hsource)) := by
    rw [List.getLast?_map, List.getLast?_eq_some_getLast hsource]
    rfl
  obtain ⟨hhelpers, hplan⟩ := PropertyBuilder.plan_follows hproperty h hm.conversion
    (hm.source _ (List.getLast_mem hsource)) hm.destination
  rw [property_eq b h hlast, property_eq b' h hlast]
  exact PropertyBuilder.along_follows hproperty hhelpers hplan _ _

/-- **The properties of pairs** become the same, if one looks at the policies or none is missing,
and need the same helpers. -/
theorem properties_follow (h : Helpers) {ms : List PropertyMatch} (hms : ∀ m ∈ ms, m.Within K)
    (hsources : ∀ m ∈ ms, m.source ≠ []) :
    (b'.properties h ms).2.1 = (b.properties h ms).2.1 ∧
      ((v.policies = true ∨ Diagnostic.hasErrors (b.properties h ms).2.2 = false) →
        List.Forall₂ (PropertyMapping.Becomes v σ K) (b.properties h ms).1 (b'.properties h ms).1 ∧
          (b'.properties h ms).2.2 = (b.properties h ms).2.2) := by
  induction ms generalizing h with
  | nil => exact ⟨rfl, fun _ => ⟨.nil, rfl⟩⟩
  | cons m ms ih =>
      rw [List.forall_mem_cons] at hms hsources
      obtain ⟨hhelpers, hproperty⟩ := property_follows hb h hms.1 hsources.1
      obtain ⟨hall, hrest⟩ := ih (b.property h m).2 hms.2 hsources.2
      have hmeets := (property_builds (b := b) (h := h) hsources.1).meets
      unfold properties
      dsimp only
      rw [hhelpers]
      refine ⟨hall, fun hlook => ?_⟩
      rw [Diagnostic.hasErrors_append, Bool.or_eq_false_iff] at hlook
      obtain ⟨hps, hreports⟩ := hrest (hlook.imp_right And.right)
      rw [hreports]
      revert hproperty hmeets hlook
      generalize (b.property h m).1 = x
      generalize (b'.property h m).1 = y
      intro hproperty hmeets hlook
      cases x with
      | ok p =>
          cases y with
          | ok p' => exact ⟨.cons hproperty hps, rfl⟩
          | error es => exact hproperty.elim
      | error ds =>
          have hv : v.policies = true := hlook.resolve_right fun herr => by
            obtain ⟨p, hp, -⟩ := hmeets.exists_ok herr.1
            cases hp
          cases y with
          | ok p' => exact absurd (hv.symm.trans hproperty) Bool.noConfusion
          | error es => exact ⟨hps, by rw [hproperty hv]⟩

end Builder

/-! ## 7. Mappings -/

theorem Strategy.isAsync_mapDelegate (f : DelegateCall → DelegateCall) (s : Strategy) :
    (s.mapDelegate f).isAsync = s.isAsync := by cases s <;> rfl

theorem PropertyMapping.strategies_mapDelegates (f : DelegateCall → DelegateCall)
    (p : PropertyMapping) :
    (p.mapDelegates f).strategies = p.strategies.map (Strategy.mapDelegate f) :=
  PropertyMapping.strategies_mapStrategies _ p

namespace PropertyMapping

variable {v : View} {σ : MappingId → MappingId} {K : String → Prop}

theorem Becomes.strategies {p p' : PropertyMapping} (h : p.Becomes v σ K p') :
    p'.strategies = p.strategies.map (Strategy.rename σ) := by
  have heq := congrArg PropertyMapping.strategies h.1
  rwa [View.strategies_property, View.strategies_property,
    PropertyMapping.strategies_mapDelegates] at heq

theorem any_isAsync_of_becomes {ps ps' : List PropertyMapping}
    (h : List.Forall₂ (Becomes v σ K) ps ps') :
    (ps'.any fun p => p.strategies.any Strategy.isAsync) =
      ps.any fun p => p.strategies.any Strategy.isAsync := by
  induction h with
  | nil => rfl
  | cons hp _ ih =>
      rw [List.any_cons, List.any_cons, ih, hp.strategies, List.any_map]
      congr 2
      funext s
      exact s.isAsync_mapDelegate _

theorem map_property_of_becomes {ps ps' : List PropertyMapping}
    (h : List.Forall₂ (Becomes v σ K) ps ps') :
    ps'.map v.property = (ps.map (mapDelegates (DelegateCall.rename σ))).map v.property := by
  induction h with
  | nil => rfl
  | cons hp _ ih =>
      rw [List.map_cons, List.map_cons, List.map_cons, ih, hp.1]

end PropertyMapping

namespace Mapping

variable {v : View} {σ : MappingId → MappingId} {K : String → Prop} {c c' : BuildContext}

/-- **A mapping that is built in two runs** is the same, if one looks at the policies or its first
construction has found no error, and its calls are for pairs of types at paths of the set. -/
theorem view_buildFrom (hc : c.Follows v K c') {m : Mapping} (hm : m.key.Within K)
    (hnew : m.properties = []) {id : MappingId} {source destination : TypeDecl}
    (hlook : v.policies = true ∨ (m.buildFrom c id source destination).isValid = true) :
    v.mapping (m.buildFrom c' (σ id) source destination) =
        v.mapping ((m.buildFrom c id source destination).rename σ) ∧
      ∀ d ∈ (m.buildFrom c id source destination).delegates, d.key.Within K := by
  have hmatch := hc.schema.matchProperties hm.1 hm.2 m.index
  have hbuilder : (⟨c, m.key, id⟩ : Builder).Follows v σ K ⟨c', m.key, σ id⟩ := ⟨hc, rfl, hm, rfl⟩
  obtain ⟨hhelpers, hproperties⟩ := Builder.properties_follow hbuilder Helpers.none
    (fun p hp => hc.schema.within_of_mem_pairs m.index hp)
    fun p hp => Sides.source_ne_nil_of_mem_pairs hp
  obtain ⟨hbecomes, hreports⟩ := hproperties <| hlook.imp_right fun hvalid => by
    have hclean := (Bool.not_eq_true' _).mp hvalid
    simp only [buildFrom, Diagnostic.hasErrors_append, Bool.or_eq_false_iff] at hclean
    exact hclean.2
  refine ⟨?_, fun d hd => ?_⟩
  · simp only [buildFrom, rename, mapDelegates, View.mapping, hmatch, hhelpers, hreports, hnew,
      List.nil_append, PropertyMapping.any_isAsync_of_becomes hbecomes,
      PropertyMapping.map_property_of_becomes hbecomes]
    cases hv : v.variants with
    | true => rw [(hc.config.variants hv).2]
    | false => rfl
  · obtain ⟨s, hs, hd⟩ := List.mem_filterMap.mp hd
    obtain ⟨p, hp, hs⟩ := List.mem_flatMap.mp hs
    have hp : p ∈ (Builder.properties ⟨c, m.key, id⟩ Helpers.none
        (matchProperties c.schema m.key m.index).pairs).1 := by
      simpa only [buildFrom, hnew, List.nil_append] using hp
    obtain ⟨p', -, hp'⟩ := exists_of_mem_left hbecomes hp
    exact hp'.2 s hs d hd

end Mapping

end TypeMapper

import TypeMapper.Proofs.Construction.Attempt
/-!
# Absent values in built properties

A property is built only if something is said about every value on its way that may be absent: each
link of its chain and each slot of its container has a policy, or a strategy that takes the absent
value itself. Which policy it is follows from the destination, the directives and the settings.

* `Hop.NullSafe`, `ElementMapping.NullSafe`: what a link and a slot may do about an absent value.
* `PropertyMapping.NullSafe`: all links and slots; `PropertyMapping.NullSafe.absorbs`.
* `PropertyMapping.Built`: that, and what is copied; `Builder.property_gives` of a pair.
* `PropertyMapping.Built.mapDelegates`: binding calls leaves it alone.
* `Mapping.nullSafe_of_build`: the properties that building a mapping adds.
-/

namespace TypeMapper

open Attempt

/-! ## 1. What is said about absent values -/

/-- The slots of a container, with where they stand. -/
def Shape.slots : Shape → List (Slot × ElementMapping)
  | .scalar => []
  | .collection _ _ e => [(.collection, e)]
  | .map _ k v => [(.map, k), (.map, v)]
  | .tuple es => es.map fun e => (.tuple, e)

theorem Shape.map_snd_slots (sh : Shape) : sh.slots.map Prod.snd = sh.elements := by
  cases sh with
  | tuple es => simp [slots, elements, Function.comp_def]
  | _ => rfl

/-- The slots are for the parts of both types. -/
def Shape.Between (source destination : TypeRef) : Shape → Prop
  | .scalar => True
  | .collection _ k e =>
    ∃ j n n', source = .collection j e.source n ∧ destination = .collection k e.destination n'
  | .map kind k v => ∃ j n n', source = .map j k.source v.source n ∧
    destination = .map kind k.destination v.destination n'
  | .tuple es => ∃ n n', source = .tuple (es.map ElementMapping.source) n ∧
    destination = .tuple (es.map ElementMapping.destination) n'

/-- What a link of a property does about an absent value, under settings; `terminal` says that it is
the last one of the chain. -/
structure Hop.NullSafe (c : Config) (p : PropertyMapping) (terminal : Prop) (h : Hop) : Prop where
  /-- There is a policy if the value may be absent, unless the strategy takes an absent one. -/
  isSome_iff : h.onNull.isSome = true ↔
    h.nullable = true ∧ ¬ (terminal ∧ ∃ s ∈ p.strategy, s.acceptsNull = true)
  propagate_iff : ∀ policy ∈ h.onNull, policy = .propagate ↔ p.destinationNullable = true
  guard : h.onNull = some .guard →
    ¬ terminal ∧ c.throwOnNullProperty = true ∧ p.ignoreNull = false
  fallback : h.onNull = some .fallback →
    p.ignoreNull = true ∨ (terminal ∧ p.shape.absorbsNull = true)
  drop : h.onNull ≠ some .drop

/-- What a slot does about an absent value, under settings. -/
structure ElementMapping.NullSafe (c : Config) (ignoreNull : Bool) (slot : Slot)
    (e : ElementMapping) : Prop where
  /-- There is a policy if the value may be absent, unless the strategy takes an absent one. -/
  isSome_iff : e.onNull.isSome = true ↔
    e.source.nullable = true ∧ ¬ ∃ s ∈ e.strategy, s.acceptsNull = true
  propagate_iff : ∀ policy ∈ e.onNull, policy = .propagate ↔ e.destination.nullable = true
  guard : e.onNull = some .guard → c.throwOnNullElement = true ∧ ignoreNull = false
  fallback : e.onNull = some .fallback → slot = .tuple ∧ ignoreNull = true
  drop : e.onNull = some .drop →
    slot ≠ .tuple ∧ (ignoreNull = true ∨ c.throwOnNullElement = false)

theorem ElementMapping.NullSafe.nullable_of_policy {c : Config} {ignoreNull : Bool} {slot : Slot}
    {e : ElementMapping} (h : e.NullSafe c ignoreNull slot) {policy : NullPolicy}
    (hpolicy : e.onNull = some policy) : e.source.nullable = true :=
  (h.isSome_iff.mp (by rw [hpolicy]; rfl)).1

/-- Where a slot has no policy, an absent value is for the strategy to take. -/
theorem ElementMapping.NullSafe.takes_of_none {c : Config} {ignoreNull : Bool} {slot : Slot}
    {e : ElementMapping} (h : e.NullSafe c ignoreNull slot) (hnone : e.onNull = none)
    (hnull : e.source.nullable = true) : ∃ s ∈ e.strategy, s.acceptsNull = true := by
  refine Decidable.byContradiction fun hno => ?_
  have hsome := h.isSome_iff.mpr ⟨hnull, hno⟩
  rw [hnone] at hsome
  cases hsome

/-- **What a property does about absent values**: every link of its chain and every slot of its
container is safe. -/
structure PropertyMapping.NullSafe (c : Config) (p : PropertyMapping) : Prop where
  source_ne_nil : p.source ≠ []
  hops : ∀ before hop after, p.source = before ++ hop :: after → hop.NullSafe c p (after = [])
  slots : ∀ s ∈ p.shape.slots, s.2.NullSafe c p.ignoreNull s.1

/-- What construction makes sure of about a slot: it is safe, and copied only within one shape. -/
structure ElementMapping.Built (c : Config) (ignoreNull : Bool) (slot : Slot)
    (e : ElementMapping) : Prop where
  nullSafe : e.NullSafe c ignoreNull slot
  copies : e.strategy = none → e.source.sameShape e.destination = true

/-- What construction makes sure of about a plan: a copy is of a value without slots and within one
shape, and a container has slots that are built as they should. -/
def Plan.Built (c : Config) (ignoreNull : Bool) (source destination : TypeRef) : Plan → Prop
  | .copy => isShaped source destination = false ∧ source.sameShape destination = true
  | .strategy _ => True
  | .shape sh => sh ≠ .scalar ∧ sh.Between source destination ∧
    ∀ s ∈ sh.slots, s.2.Built c ignoreNull s.1

/-- What construction makes sure of about a property: it is safe, a container has no strategy beside
it, the slots are for the parts of both types, what is copied as a whole has no slots, and every
copy is within one shape. -/
structure PropertyMapping.Built (c : Config) (p : PropertyMapping) : Prop where
  nullSafe : p.NullSafe c
  slotwise : p.shape ≠ .scalar → p.strategy = none
  between : p.shape.Between p.terminal.ty p.destination.ty
  copies : p.strategy = none → p.shape = .scalar →
    isShaped p.terminal.ty p.destination.ty = false ∧
      p.terminal.ty.sameShape p.destination.ty = true
  slotCopies : ∀ e ∈ p.shape.elements, e.strategy = none →
    e.source.sameShape e.destination = true

theorem PropertyMapping.eq_append_terminal {p : PropertyMapping} (h : p.source ≠ []) :
    p.source = p.source.dropLast ++ [p.terminal] := by
  rw [terminal, List.getLast?_eq_some_getLast h]
  exact (List.dropLast_concat_getLast h).symm

/-- A value that may be absent at the end of the chain gets to a destination that is always there in
three ways only. -/
theorem PropertyMapping.NullSafe.absorbs {c : Config} {p : PropertyMapping} (h : p.NullSafe c)
    (hs : p.sourceNullable = true) (hd : p.destinationNullable = false) :
    p.shape.absorbsNull = true ∨ p.ignoreNull = true ∨
      ∃ s ∈ p.strategy, s.acceptsNull = true := by
  have hterm := h.hops _ _ _ (eq_append_terminal h.source_ne_nil)
  by_cases hstrategy : ∃ s ∈ p.strategy, s.acceptsNull = true
  · exact Or.inr (Or.inr hstrategy)
  · have hsome := hterm.isSome_iff.mpr ⟨hs, fun hno => hstrategy hno.2⟩
    obtain ⟨policy, hpolicy⟩ := Option.isSome_iff_exists.mp hsome
    cases policy with
    | fallback =>
        rcases hterm.fallback hpolicy with hignore | ⟨-, hcontainer⟩
        · exact Or.inr (Or.inl hignore)
        · exact Or.inl hcontainer
    | drop => exact absurd hpolicy hterm.drop
    | guard => exact absurd rfl (hterm.guard hpolicy).1
    | propagate =>
        have hprop := (hterm.propagate_iff _ hpolicy).mp rfl
        exact absurd (hprop.symm.trans hd) Bool.noConfusion

/-! ## 2. Binding calls -/

/-- A call takes an absent value before it is bound as after it. -/
@[simp] theorem Strategy.acceptsNull_mapDelegate (f : DelegateCall → DelegateCall) (s : Strategy) :
    (s.mapDelegate f).acceptsNull = s.acceptsNull := by cases s <;> rfl

theorem exists_acceptsNull_map (f : DelegateCall → DelegateCall) (o : Option Strategy) :
    (∃ s ∈ o.map (Strategy.mapDelegate f), s.acceptsNull = true) ↔
      ∃ s ∈ o, s.acceptsNull = true := by
  cases o <;> simp

theorem Shape.slots_mapElements (f : ElementMapping → ElementMapping) (sh : Shape) :
    (sh.mapElements f).slots = sh.slots.map fun s => (s.1, f s.2) := by
  cases sh <;> simp [mapElements, slots]

theorem Shape.absorbsNull_mapElements (f : ElementMapping → ElementMapping) (sh : Shape) :
    (sh.mapElements f).absorbsNull = sh.absorbsNull := by cases sh <;> rfl

theorem Shape.between_mapElements {f : ElementMapping → ElementMapping}
    {source destination : TypeRef} (hs : ∀ e, (f e).source = e.source)
    (hd : ∀ e, (f e).destination = e.destination) {sh : Shape}
    (h : sh.Between source destination) : (sh.mapElements f).Between source destination := by
  cases sh with
  | scalar => trivial
  | collection k j e => simpa only [mapElements, Between, hs, hd] using h
  | map j k v => simpa only [mapElements, Between, hs, hd] using h
  | tuple es => simpa only [mapElements, Between, List.map_map, Function.comp_def, hs, hd] using h

theorem ElementMapping.NullSafe.mapDelegate {c : Config} {ignoreNull : Bool} {slot : Slot}
    {e : ElementMapping} (h : e.NullSafe c ignoreNull slot) (f : DelegateCall → DelegateCall) :
    ({ e with strategy := e.strategy.map (Strategy.mapDelegate f) } : ElementMapping).NullSafe c
      ignoreNull slot :=
  ⟨by rw [h.isSome_iff, exists_acceptsNull_map], h.propagate_iff, h.guard, h.fallback, h.drop⟩

theorem Hop.NullSafe.mapDelegates {c : Config} {p : PropertyMapping} {terminal : Prop} {hop : Hop}
    (h : hop.NullSafe c p terminal) (f : DelegateCall → DelegateCall) :
    hop.NullSafe c (p.mapDelegates f) terminal := by
  refine ⟨?_, h.propagate_iff, h.guard, fun hp => ?_, h.drop⟩
  · rw [h.isSome_iff, PropertyMapping.mapDelegates, PropertyMapping.mapStrategies,
      exists_acceptsNull_map]
  · rw [PropertyMapping.mapDelegates, PropertyMapping.mapStrategies,
      Shape.absorbsNull_mapElements]
    exact h.fallback hp

/-- **Binding calls leaves alone** what construction makes sure of. -/
theorem PropertyMapping.Built.mapDelegates {c : Config} {p : PropertyMapping} (h : p.Built c)
    (f : DelegateCall → DelegateCall) : (p.mapDelegates f).Built c := by
  have hscalar : (p.mapDelegates f).shape = .scalar ↔ p.shape = .scalar := by
    show p.shape.mapElements _ = .scalar ↔ _
    cases p.shape <;> simp [Shape.mapElements]
  refine ⟨⟨h.nullSafe.source_ne_nil, fun before hop after heq =>
    (h.nullSafe.hops before hop after heq).mapDelegates f, fun s hs => ?_⟩, fun hshape => ?_, ?_,
    fun hstrategy hshape => ?_, fun e he hcopy => ?_⟩
  · rw [PropertyMapping.mapDelegates, mapStrategies, Shape.slots_mapElements] at hs
    obtain ⟨t, ht, rfl⟩ := List.mem_map.mp hs
    exact (h.nullSafe.slots t ht).mapDelegate f
  · show p.strategy.map _ = none
    rw [h.slotwise fun hp => hshape (hscalar.mpr hp), Option.map_none]
  · rw [PropertyMapping.mapDelegates, mapStrategies]
    refine Shape.between_mapElements ?_ ?_ h.between <;> exact fun _ => rfl
  · exact h.copies (Option.map_eq_none_iff.mp hstrategy) (hscalar.mp hshape)
  · rw [PropertyMapping.mapDelegates, mapStrategies, Shape.elements_mapElements] at he
    obtain ⟨t, ht, rfl⟩ := List.mem_map.mp he
    exact h.slotCopies t ht (Option.map_eq_none_iff.mp hcopy)

/-! ## 3. Links -/

namespace PropertyBuilder

variable {b : PropertyBuilder} {plan : Plan} {e : PropertyEnd}

theorem acceptsNull_iff (plan : Plan) (hops : List Hop) (e : PropertyEnd)
    (d : PropertyDirectives) : Plan.acceptsNull plan = true ↔
      ∃ s ∈ (plan.toMapping hops e d).strategy, s.acceptsNull = true := by
  cases plan <;> simp [Plan.acceptsNull, Plan.toMapping]

theorem absorbsNull_eq (plan : Plan) (hops : List Hop) (e : PropertyEnd) (d : PropertyDirectives) :
    Plan.absorbsNull plan = (plan.toMapping hops e d).shape.absorbsNull := by
  cases plan <;> rfl

/-- A value needs a policy if it may be absent and is not taken as it is. -/
theorem needsPolicy_iff (nullable terminal takes : Bool) :
    (!nullable || terminal && takes) = false ↔
      nullable = true ∧ ¬ (terminal = true ∧ takes = true) := by
  cases nullable <;> cases terminal <;> cases takes <;> simp

/-- **The policy of a link** is safe in the mapping of the plan. -/
theorem hopPolicy_gives (hops : List Hop) (terminal : Bool) (before : List String) (hop : Hop) :
    Gives (fun o => ({ hop with onNull := o } : Hop).NullSafe b.config
        (plan.toMapping hops e b.directives) (terminal = true))
      (b.hopPolicy plan e terminal before hop) := by
  have hneeds := needsPolicy_iff hop.nullable terminal (Plan.acceptsNull plan)
  rw [acceptsNull_iff plan hops e b.directives] at hneeds
  unfold hopPolicy
  split
  · rename_i hno
    refine gives_ok ⟨⟨nofun, fun hneed => ?_⟩, nofun, nofun, nofun, nofun⟩
    exact absurd (hno.symm.trans (hneeds.mpr hneed)) Bool.noConfusion
  rename_i hneed
  have hneed := hneeds.mp (Bool.eq_false_iff.mpr hneed)
  split
  · rename_i hnull
    refine gives_ok ⟨⟨fun _ => hneed, fun _ => rfl⟩, ?_, nofun, nofun, nofun⟩
    rintro _ ⟨⟩
    exact ⟨fun _ => hnull, fun _ => rfl⟩
  rename_i hdest
  -- from here on the destination is always there, so no policy keeps the value absent
  have hprop : ∀ policy : NullPolicy, policy ≠ .propagate →
      ∀ q ∈ some policy, q = .propagate ↔ e.nullable = true := by
    rintro policy hne _ ⟨⟩
    exact ⟨fun heq => absurd heq hne, fun hnull => absurd hnull hdest⟩
  split
  · rename_i hempty
    rw [Bool.and_eq_true, absorbsNull_eq plan hops e b.directives] at hempty
    exact gives_ok ⟨⟨fun _ => hneed, fun _ => rfl⟩, hprop _ nofun, nofun,
      fun _ => Or.inr hempty, nofun⟩
  · split
    · rename_i hignore
      exact gives_ok ⟨⟨fun _ => hneed, fun _ => rfl⟩, hprop _ nofun, nofun,
        fun _ => Or.inl hignore, nofun⟩
    · rename_i hignore
      split
      · rename_i hguard
        rw [Bool.and_eq_true, Bool.not_eq_true'] at hguard
        refine gives_ok ⟨⟨fun _ => hneed, fun _ => rfl⟩, hprop _ nofun, fun _ => ?_, nofun, nofun⟩
        exact ⟨Bool.eq_false_iff.mp hguard.1, hguard.2, Bool.eq_false_iff.mpr hignore⟩
      · dsimp only
        repeat' split
        all_goals exact gives_error _

/-- A link without its policy. -/
def bare (hop : Hop) : Hop := { hop with onNull := none }

/-- **The links of a chain** are the same but for their policies, which are safe. -/
theorem hopPolicies_gives (hops₀ : List Hop) (before : List String) (hops : List Hop) :
    Gives (fun hs => hs.map bare = hops.map bare ∧
        ∀ front hop back, hs = front ++ hop :: back →
          hop.NullSafe b.config (plan.toMapping hops₀ e b.directives) (back = []))
      (b.hopPolicies plan e before hops) := by
  induction hops generalizing before with
  | nil => exact gives_ok ⟨rfl, fun front hop back h => by simp at h⟩
  | cons hop rest ih =>
      unfold hopPolicies
      dsimp only
      refine (gives_both (hopPolicy_gives hops₀ rest.isEmpty _ hop) (ih _)).map fun q hq => ?_
      obtain ⟨hpolicy, hbare, hrest⟩ := hq
      refine ⟨congrArg (bare hop :: ·) hbare, fun front hop' back h => ?_⟩
      cases front with
      | nil =>
          obtain ⟨rfl, rfl⟩ := List.cons.inj h
          have hempty : (rest.isEmpty = true) = (q.2 = []) := by
            rw [List.isEmpty_iff, ← List.map_eq_nil_iff (f := bare), ← hbare, List.map_eq_nil_iff]
          exact hempty ▸ hpolicy
      | cons first front => exact hrest front hop' back (List.cons.inj h).2

/-! ## 4. Slots -/

variable {slot : Slot} {source destination : TypeRef}

theorem getD_map_acceptsNull {o : Option Strategy} :
    (o.map Strategy.acceptsNull).getD false = true ↔ ∃ s ∈ o, s.acceptsNull = true := by
  cases o <;> simp

/-- The policy of a slot whose destination is always there. -/
theorem slotPolicy_gives : Gives (fun policy => policy ≠ .propagate ∧
      (policy = .guard → b.config.throwOnNullElement = true ∧ b.directives.ignoreNull = false) ∧
      (policy = .fallback → slot = .tuple ∧ b.directives.ignoreNull = true) ∧
      (policy = .drop → slot ≠ .tuple ∧
        (b.directives.ignoreNull = true ∨ b.config.throwOnNullElement = false)))
    (b.slotPolicy slot source destination) := by
  unfold slotPolicy
  split
  · split
    · rename_i hignore
      exact gives_ok ⟨nofun, nofun, fun _ => ⟨rfl, hignore⟩, nofun⟩
    · rename_i hignore
      split
      · rename_i hguard
        exact gives_ok ⟨nofun, fun _ => ⟨hguard, Bool.eq_false_iff.mpr hignore⟩, nofun, nofun⟩
      · exact gives_error _
  · rename_i hslot
    split
    · rename_i hdrop
      rw [Bool.or_eq_true, Bool.not_eq_true'] at hdrop
      exact gives_ok ⟨nofun, nofun, nofun, fun _ => ⟨hslot, hdrop⟩⟩
    · rename_i hguard
      rw [Bool.or_eq_true, not_or, Bool.not_eq_true', Bool.not_eq_false] at hguard
      exact gives_ok ⟨nofun, fun _ => ⟨hguard.2, Bool.eq_false_iff.mpr hguard.1⟩, nofun, nofun⟩

theorem slotPolicy?_gives (strategy : Option Strategy) :
    Gives (fun o => ∀ byValue, ElementMapping.NullSafe b.config b.directives.ignoreNull slot
        ⟨source, destination, byValue, strategy, o⟩)
      (b.slotPolicy? slot strategy source destination) := by
  have hneeds := needsPolicy_iff source.nullable true
    ((strategy.map Strategy.acceptsNull).getD false)
  rw [Bool.true_and, getD_map_acceptsNull] at hneeds
  unfold slotPolicy?
  split
  · rename_i hno
    refine gives_ok fun byValue => ⟨⟨nofun, fun hneed => ?_⟩, nofun, nofun, nofun, nofun⟩
    have hfalse := hneeds.mpr ⟨hneed.1, fun htakes => hneed.2 htakes.2⟩
    exact absurd (hno.symm.trans hfalse) Bool.noConfusion
  rename_i hneed
  obtain ⟨hnull, htakes⟩ := hneeds.mp (Bool.eq_false_iff.mpr hneed)
  have hiff (policy : NullPolicy) : (some policy).isSome = true ↔
      source.nullable = true ∧ ¬ ∃ s ∈ strategy, s.acceptsNull = true :=
    ⟨fun _ => ⟨hnull, fun hs => htakes ⟨rfl, hs⟩⟩, fun _ => rfl⟩
  split
  · rename_i hdest
    refine gives_ok fun byValue => ⟨hiff _, ?_, nofun, nofun, nofun⟩
    rintro _ ⟨⟩
    exact ⟨fun _ => hdest, fun _ => rfl⟩
  · rename_i hdest
    refine slotPolicy_gives.map fun policy hpolicy byValue => ?_
    obtain ⟨hprop, hguard, hfallback, hdrop⟩ := hpolicy
    refine ⟨hiff _, ?_, fun h => hguard (Option.some.inj h), fun h => hfallback (Option.some.inj h),
      fun h => hdrop (Option.some.inj h)⟩
    rintro _ ⟨⟩
    exact ⟨fun h => absurd h hprop, fun h => absurd h hdest⟩

/-- A slot without a strategy of its own is copied only within one shape. -/
theorem slotStrategy_gives : Gives (fun o => o = none → source.sameShape destination = true)
    (b.slotStrategy source destination) := by
  unfold slotStrategy
  split
  · exact gives_ok nofun
  · split
    · rename_i hshape
      exact gives_ok fun _ => hshape
    · exact gives_error _

/-- **A slot** is for its types and safe, and copied only within one shape. -/
theorem element_gives (given : Option Strategy) :
    Gives (fun e => e.source = source ∧ e.destination = destination ∧
        e.Built b.config b.directives.ignoreNull slot)
      (b.element slot given source destination) := by
  have hrest (strategy : Option Strategy)
      (hcopy : strategy = none → source.sameShape destination = true) :
      Gives (fun e => e.source = source ∧ e.destination = destination ∧
          e.Built b.config b.directives.ignoreNull slot)
        ((do
          let policy ← b.slotPolicy? slot strategy source destination
          return ⟨source, destination, b.schema.isByValue source, strategy, policy⟩) :
            Attempt ElementMapping) :=
    (slotPolicy?_gives strategy).bind fun _ hsafe => gives_ok ⟨rfl, rfl, hsafe _, hcopy⟩
  unfold element
  cases given with
  | some s =>
      exact (gives_true (b.checkOutput s destination)).bind fun _ _ => hrest (some s) nofun
  | none =>
      refine slotStrategy_gives.bind fun strategy hcopy => ?_
      cases strategy with
      | some s =>
          exact (gives_true (b.checkOutput s destination)).bind fun _ _ => hrest (some s) nofun
      | none => exact hrest none hcopy

/-- The slots of a tuple, one for each pair of types. -/
theorem elements_gives {as bs : List TypeRef} (h : as.length = bs.length) :
    Gives (fun es => as = es.map ElementMapping.source ∧ bs = es.map ElementMapping.destination ∧
        ∀ e ∈ es, e.Built b.config b.directives.ignoreNull .tuple)
      (all (List.zipWith (b.element .tuple none) as bs)) := by
  induction as generalizing bs with
  | nil =>
      obtain rfl := List.length_eq_zero_iff.mp h.symm
      exact gives_ok ⟨rfl, rfl, fun e he => absurd he List.not_mem_nil⟩
  | cons a as ih =>
      cases bs with
      | nil => cases h
      | cons d bs =>
          refine (gives_both (element_gives none) (ih (Nat.succ.inj h))).map fun q hq => ?_
          obtain ⟨⟨hsource, hdest, he⟩, hsources, hdests, hes⟩ := hq
          refine ⟨?_, ?_, fun e hmem => ?_⟩
          · rw [List.map_cons, hsource, ← hsources]
          · rw [List.map_cons, hdest, ← hdests]
          rcases List.mem_cons.mp hmem with rfl | hmem
          · exact he
          · exact hes e hmem

/-- **A container** has such slots, for the parts of both types, and some form. -/
theorem shape_gives (given : Option Strategy) :
    Gives (fun sh => sh ≠ .scalar ∧ sh.Between source destination ∧
        ∀ s ∈ sh.slots, s.2.Built b.config b.directives.ignoreNull s.1)
      (b.shape given source destination) := by
  unfold shape
  split
  · refine (element_gives given).map fun e he => ?_
    obtain ⟨rfl, rfl, hbuilt⟩ := he
    refine ⟨nofun, ⟨_, _, _, rfl, rfl⟩, fun s hs => ?_⟩
    rw [List.mem_singleton.mp hs]
    exact hbuilt
  · refine (gives_both (element_gives none) (element_gives given)).map fun q hq => ?_
    obtain ⟨⟨hk, hk', hkey⟩, hv, hv', hvalue⟩ := hq
    refine ⟨nofun, ⟨_, _, _, by rw [hk, hv], by rw [hk', hv']⟩, fun s hs => ?_⟩
    rcases List.mem_cons.mp hs with rfl | hs
    · exact hkey
    · rw [List.mem_singleton.mp hs]
      exact hvalue
  · split
    · rename_i hlen
      refine (elements_gives hlen).map fun es hes => ?_
      obtain ⟨rfl, rfl, hbuilt⟩ := hes
      refine ⟨nofun, ⟨_, _, rfl, rfl⟩, fun s hs => ?_⟩
      obtain ⟨e, he, rfl⟩ := List.mem_map.mp hs
      exact hbuilt e he
    · exact gives_error _
  · exact gives_error _

/-! ## 5. Plans -/

theorem structural_gives : Gives (Plan.Built b.config b.directives.ignoreNull source destination)
    (b.structural source destination) := by
  unfold structural
  split
  · exact (shape_gives none).map fun _ => id
  · rename_i hshaped
    split
    · exact gives_ok trivial
    · split
      · rename_i hshape
        exact gives_ok ⟨Bool.eq_false_iff.mpr hshaped, hshape⟩
      · exact gives_error _

theorem applyStrategy_gives (s : Strategy) :
    Gives (Plan.Built b.config b.directives.ignoreNull source destination)
      (b.applyStrategy s source destination) := by
  unfold applyStrategy
  split
  · exact (shape_gives (some s)).map fun _ => id
  · exact (gives_true (b.checkOutput s destination)).bind fun _ _ => gives_ok trivial

/-- **A plan** copies within one shape, or maps slot by slot as it should. -/
theorem plan_gives (b : PropertyBuilder) (h : Helpers) (source destination : TypeRef) :
    Gives (Plan.Built b.config b.directives.ignoreNull source destination)
      (b.plan h source destination).1 := by
  unfold plan
  split
  · exact structural_gives
  · split
    · exact gives_error _
    · split
      · exact gives_error _
      · exact applyStrategy_gives _

end PropertyBuilder

/-! ## 6. Properties -/

/-- The policies of links leave the type at the end of the chain alone. -/
theorem Plan.terminal_toMapping {hops hs : List Hop} {last : Hop}
    (hlast : hops.getLast? = some last)
    (hbare : hs.map PropertyBuilder.bare = hops.map PropertyBuilder.bare) (plan : Plan)
    (e : PropertyEnd) (d : PropertyDirectives) :
    (plan.toMapping hs e d).terminal.ty = last.ty := by
  have hends : hs.getLast?.map PropertyBuilder.bare = some (PropertyBuilder.bare last) := by
    rw [← List.getLast?_map, hbare, List.getLast?_map, hlast]
    rfl
  obtain ⟨hop, hhop, heq⟩ := Option.map_eq_some_iff.mp hends
  have hty : (PropertyBuilder.bare hop).ty = (PropertyBuilder.bare last).ty := by rw [heq]
  show (hs.getLast?.getD default).ty = last.ty
  rw [hhop]
  exact hty

/-- The mapping of a plan along links with their policies. -/
theorem Plan.built_toMapping {c : Config} {plan : Plan} {hops hs : List Hop} {last : Hop}
    {e : PropertyEnd} {d : PropertyDirectives} (hlast : hops.getLast? = some last)
    (hplan : plan.Built c d.ignoreNull last.ty e.ty)
    (hbare : hs.map PropertyBuilder.bare = hops.map PropertyBuilder.bare)
    (hsafe : ∀ front hop back, hs = front ++ hop :: back →
      hop.NullSafe c (plan.toMapping hs e d) (back = [])) :
    (plan.toMapping hs e d).Built c := by
  have hterminal := Plan.terminal_toMapping hlast hbare plan e d
  have hne : hs ≠ [] := by
    rintro rfl
    rw [List.map_eq_nil_iff.mp hbare.symm] at hlast
    cases hlast
  refine ⟨⟨hne, hsafe, ?_⟩, fun hshape => ?_, ?_, fun hstrategy hshape => ?_,
    fun el hel hcopy => ?_⟩
  · cases plan with
    | copy => exact fun s hs => absurd hs List.not_mem_nil
    | strategy t => exact fun s hs => absurd hs List.not_mem_nil
    | shape sh => exact fun s hs => (hplan.2.2 s hs).nullSafe
  · cases plan with
    | shape sh => rfl
    | copy => exact absurd rfl hshape
    | strategy t => exact absurd rfl hshape
  · rw [hterminal]
    cases plan with
    | copy => trivial
    | strategy t => trivial
    | shape sh => exact hplan.2.1
  · cases plan with
    | copy => rw [hterminal]; exact hplan
    | strategy t => cases hstrategy
    | shape sh => exact absurd hshape hplan.1
  · cases plan with
    | copy => exact absurd hel List.not_mem_nil
    | strategy t => exact absurd hel List.not_mem_nil
    | shape sh =>
        obtain ⟨s, hs, rfl⟩ := List.mem_map.mp (sh.map_snd_slots ▸ hel)
        exact (hplan.2.2 s hs).copies hcopy

namespace Builder

/-- **The property of a pair** is built as it should. -/
theorem property_gives (b : Builder) (h : Helpers) (m : PropertyMatch) :
    Gives (PropertyMapping.Built b.config) (b.property h m).1 := by
  intro p hp
  obtain ⟨last, plan, hs, hlast, hplan, hhops, rfl⟩ := b.property_planned h m p hp
  obtain ⟨hbare, hsafe⟩ := PropertyBuilder.hopPolicies_gives hs [] _ hs hhops
  exact Plan.built_toMapping hlast (PropertyBuilder.plan_gives _ h _ _ plan hplan) hbare hsafe

/-- **The properties of pairs** are built as they should. -/
theorem built_of_mem_properties {b : Builder} {h : Helpers} {ms : List PropertyMatch}
    {p : PropertyMapping} (hp : p ∈ (b.properties h ms).1) : p.Built b.config := by
  obtain ⟨k, m, -, hprop⟩ := exists_property_of_mem_properties hp
  exact b.property_gives k m p hprop

end Builder

namespace Mapping

variable {c : BuildContext} {id : MappingId} {m n : Mapping}

/-- Building a mapping adds properties that are built as they should. -/
theorem built_of_build (h : m.build c id = .ok n) :
    ∃ ps, n.properties = m.properties ++ ps ∧ ∀ p ∈ ps, p.Built c.config := by
  obtain ⟨ps, hps, hpairs⟩ := exists_properties_of_build h
  refine ⟨ps, hps, fun p hp => ?_⟩
  obtain ⟨k, pair, -, hprop⟩ := hpairs p hp
  exact Builder.property_gives _ k pair p hprop

/-- **Building a mapping adds only properties that are safe about absent values**, whatever the
schema, the settings and the declared mappings are; a value that may be absent gets to a destination
that is always there only through a collection or a map, by a directive that accepts it, or by a
strategy that takes it. -/
theorem nullSafe_of_build (h : m.build c id = .ok n) :
    ∃ ps, n.properties = m.properties ++ ps ∧ ∀ p ∈ ps, p.NullSafe c.config ∧
      (p.sourceNullable = true → p.destinationNullable = false →
        p.shape.absorbsNull = true ∨ p.ignoreNull = true ∨
          ∃ s ∈ p.strategy, s.acceptsNull = true) := by
  obtain ⟨ps, hps, hbuilt⟩ := built_of_build h
  exact ⟨ps, hps, fun p hp => ⟨(hbuilt p hp).nullSafe, (hbuilt p hp).nullSafe.absorbs⟩⟩

/-- A trip with a guide and with stops; the guide, the list of stops and each stop may be absent. -/
def tripContext : BuildContext :=
  ⟨Schema.ofLists
    [type "app::Guide" [property "name" (text false)] [],
      type "app::Trip" [property "guide" (.object "app::Guide" true),
        property "stops" (.collection .list (text true) true)]
        [⟨.mapPath "guide.name" "guide_name", none⟩],
      type "app::Leaflet" [property "guide_name" (text false),
        property "stops" (.collection .array (text false) false)] []]
    [], Config.standard, []⟩
where
  /-- A text, which may be absent or not. -/
  text (nullable : Bool) : TypeRef := .scalar "String" false nullable
  /-- A property without directives. -/
  property (name : String) (ty : TypeRef) : Property := ⟨name, ty, false, ⟨true, true⟩, []⟩
  /-- A type with directives. -/
  type (path : String) (properties : List Property) (directives : List DirectiveEntry) : TypeDecl :=
    ⟨path, none, false, true, properties, directives, []⟩

/-- On the way to the name an absent guide is refused; an absent list of stops becomes an empty one,
and an absent stop is refused. -/
theorem nullSafe_of_trip : ∃ n,
    (declare ⟨"app::Trip", "app::Leaflet"⟩ none "app::Trip").build tripContext 0 = .ok n ∧
    n.properties.map (fun p => (p.source.map Hop.onNull, p.shape.elements.map fun e => e.onNull)) =
      [([some .guard, none], []), ([some .fallback], [some .guard])] ∧
    ∃ ps, n.properties = [] ++ ps ∧ ∀ p ∈ ps, p.NullSafe Config.standard ∧
      (p.sourceNullable = true → p.destinationNullable = false →
        p.shape.absorbsNull = true ∨ p.ignoreNull = true ∨
          ∃ s ∈ p.strategy, s.acceptsNull = true) := by
  have hbuilt : ((declare ⟨"app::Trip", "app::Leaflet"⟩ none "app::Trip").build tripContext 0
      ).toOption.map (fun n => n.properties.map fun p =>
        (p.source.map Hop.onNull, p.shape.elements.map fun e => e.onNull)) =
      some [([some .guard, none], []), ([some .fallback], [some .guard])] := by
    decide +kernel
  obtain ⟨n, hn, hpolicies⟩ := Option.map_eq_some_iff.mp hbuilt
  have hn := eq_ok_of_toOption hn
  exact ⟨n, hn, hpolicies, nullSafe_of_build hn⟩

end Mapping

end TypeMapper

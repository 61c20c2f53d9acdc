import TypeMapper.Proofs.Construction.Placement
import TypeMapper.Proofs.Construction.Property
/-!
# What strategies are given

A strategy that construction finds by itself takes what stands in its slot: a delegate is found for
the two object types of the slot, and a method by the type of its subject. A resolver or a mapper
that a directive names is taken as it is. So a property is suited exactly if what its directive names
is for the types of the slot that it is put on.

* `Strategy.Accepts`, `PropertyMapping.Suited`: what a strategy takes, and that all of them do.
* `PropertyMatch.Fits`: what the directive of a pair names is for the types of its slot.
* `PropertyBuilder.shape_suits`, `explicit_suits`, `plan_suits`: function by function.
* `Builder.property_suits`: the property of a pair.
-/

namespace TypeMapper

open Attempt

/-! ## 1. What strategies take -/

/-- The strategy takes what stands in a slot: a delegate is one between exactly the two object types
of the slot, a method takes a subject and a resolver a source of the shape of the source type. -/
def Strategy.Accepts (source destination : TypeRef) : Strategy → Prop
  | .delegate c => source.objectPath? = some c.key.source ∧
    destination.objectPath? = some c.key.destination
  | .method c => c.subject.sameShape source = true
  | .resolver c => c.source.sameShape source = true

instance (source destination : TypeRef) :
    (s : Strategy) → Decidable (s.Accepts source destination)
  | .delegate c => inferInstanceAs (Decidable (source.objectPath? = some c.key.source ∧
      destination.objectPath? = some c.key.destination))
  | .method c => inferInstanceAs (Decidable (c.subject.sameShape source = true))
  | .resolver c => inferInstanceAs (Decidable (c.source.sameShape source = true))

/-- The strategy of a slot takes what stands there. -/
def ElementMapping.Suited (e : ElementMapping) : Prop :=
  ∀ s ∈ e.strategy, s.Accepts e.source e.destination

instance (e : ElementMapping) : Decidable e.Suited :=
  inferInstanceAs (Decidable (∀ s ∈ e.strategy, s.Accepts e.source e.destination))

/-- All strategies of a property take what stands in their slots. -/
structure PropertyMapping.Suited (p : PropertyMapping) : Prop where
  whole : ∀ s ∈ p.strategy, s.Accepts p.terminal.ty p.destination.ty
  slots : ∀ e ∈ p.shape.elements, e.Suited

instance (p : PropertyMapping) : Decidable p.Suited :=
  decidable_of_iff ((∀ s ∈ p.strategy, s.Accepts p.terminal.ty p.destination.ty) ∧
    ∀ e ∈ p.shape.elements, e.Suited) ⟨fun h => ⟨h.1, h.2⟩, fun h => ⟨h.whole, h.slots⟩⟩

/-- All strategies of a plan between two types take what stands in their slots. -/
def Plan.Suited (source destination : TypeRef) : Plan → Prop
  | .copy => True
  | .strategy s => s.Accepts source destination
  | .shape sh => ∀ e ∈ sh.elements, e.Suited

/-- What a conversion names is for the types of a slot; a method is only looked up by them. -/
def Conversion.Fits (s : Schema) (source destination : TypeRef) : Conversion → Prop
  | .resolver path => ∀ r ∈ s.resolver? path, r.source.sameShape source = true
  | .mapper a b => source.objectPath? = some a ∧ destination.objectPath? = some b
  | .method _ => True

/-- The types of the slot that the directive of a pair is for: those of elements and map values,
unless the whole container is asked for. -/
def PropertyMatch.slot (m : PropertyMatch) : TypeRef × TypeRef :=
  helperSlot m.directives.completeCollection (m.source.getLast?.getD default).ty m.destination.ty

theorem PropertyMatch.slot_eq {m : PropertyMatch} {last : Hop}
    (h : (m.source.map Hop.ofProperty).getLast? = some last) :
    m.slot = helperSlot m.directives.completeCollection last.ty m.destination.ty := by
  rw [List.getLast?_map] at h
  obtain ⟨p, hp, rfl⟩ := Option.map_eq_some_iff.mp h
  rw [slot, hp]
  rfl

/-- What the directive of a pair names, if there is one, is for the types of its slot. -/
def PropertyMatch.Fits (s : Schema) (m : PropertyMatch) : Prop :=
  ∀ c ∈ m.directives.conversion, c.Fits s m.slot.1 m.slot.2

/-! ## 2. Binding calls -/

/-- A call takes the same before and after it is bound. -/
theorem Strategy.accepts_mapDelegate {f : DelegateCall → DelegateCall}
    (hf : ∀ c, (f c).key = c.key) {source destination : TypeRef} (s : Strategy) :
    (s.mapDelegate f).Accepts source destination ↔ s.Accepts source destination := by
  cases s with
  | delegate c => simp only [mapDelegate, Accepts, hf]
  | method c => rfl
  | resolver c => rfl

theorem ElementMapping.suited_mapDelegate {f : DelegateCall → DelegateCall}
    (hf : ∀ c, (f c).key = c.key) (e : ElementMapping) :
    ({ e with strategy := e.strategy.map (Strategy.mapDelegate f) } : ElementMapping).Suited ↔
      e.Suited := by
  simp only [Suited, Option.mem_def, Option.map_eq_some_iff]
  constructor
  · exact fun h s hs => (Strategy.accepts_mapDelegate hf s).mp (h _ ⟨s, hs, rfl⟩)
  · rintro h _ ⟨s, hs, rfl⟩
    exact (Strategy.accepts_mapDelegate hf s).mpr (h s hs)

/-- **Binding calls changes nothing** about what strategies are given. -/
theorem PropertyMapping.suited_mapDelegates {f : DelegateCall → DelegateCall}
    (hf : ∀ c, (f c).key = c.key) (p : PropertyMapping) :
    (p.mapDelegates f).Suited ↔ p.Suited := by
  have hwhole := ElementMapping.suited_mapDelegate hf
    ⟨p.terminal.ty, p.destination.ty, false, p.strategy, none⟩
  have hslots : (∀ e ∈ (p.mapDelegates f).shape.elements, e.Suited) ↔
      ∀ e ∈ p.shape.elements, e.Suited := by
    rw [PropertyMapping.mapDelegates, PropertyMapping.mapStrategies, Shape.elements_mapElements]
    simp only [List.forall_mem_map, ElementMapping.suited_mapDelegate hf]
  exact ⟨fun h => ⟨hwhole.mp h.whole, hslots.mp h.slots⟩,
    fun h => ⟨hwhole.mpr h.whole, hslots.mpr h.slots⟩⟩

/-! ## 3. Slots -/

theorem BuildContext.declaredPair?_eq_some {c : BuildContext} {source destination : TypeRef}
    {key : MappingKey} (h : c.declaredPair? source destination = some key) :
    source.objectPath? = some key.source ∧ destination.objectPath? = some key.destination := by
  unfold declaredPair? at h
  split at h
  · rename_i a b ha hb
    split at h
    · obtain rfl := Option.some.inj h
      exact ⟨ha, hb⟩
    · cases h
  · cases h

namespace PropertyBuilder

variable {b : PropertyBuilder} {h : Helpers} {slot : Slot} {source destination : TypeRef}

/-- A declared mapping is found for the types of its slot. -/
theorem slotStrategy_suits : Gives (fun o => ∀ s ∈ o, s.Accepts source destination)
    (b.slotStrategy source destination) := by
  unfold slotStrategy
  split
  · rename_i key hkey
    refine gives_ok fun s hs => ?_
    obtain rfl := Option.some.inj hs
    exact BuildContext.declaredPair?_eq_some hkey
  · split
    · exact gives_ok (by simp)
    · exact gives_error _

/-- **A slot** is suited exactly if the strategy that it is given takes what stands there. -/
theorem element_suits (given : Option Strategy) :
    Gives (fun e => e.Suited ↔ ∀ s ∈ given, s.Accepts source destination)
      (b.element slot given source destination) := by
  have hrest (strategy : Option Strategy)
      (hgiven : (∀ s ∈ strategy, s.Accepts source destination) ↔
        ∀ s ∈ given, s.Accepts source destination) :
      Gives (fun e : ElementMapping => e.Suited ↔ ∀ s ∈ given, s.Accepts source destination)
        ((do
          let policy ← b.slotPolicy? slot strategy source destination
          return ⟨source, destination, b.schema.isByValue source, strategy, policy⟩) :
            Attempt ElementMapping) :=
    (gives_true _).bind fun _ _ => gives_ok hgiven
  unfold element
  cases given with
  | some s =>
      exact (gives_true (b.checkOutput s destination)).bind fun _ _ => hrest (some s) Iff.rfl
  | none =>
      refine slotStrategy_suits.bind fun strategy haccepts => ?_
      cases strategy with
      | some s =>
          exact (gives_true (b.checkOutput s destination)).bind
            fun _ _ => hrest (some s) (iff_of_true haccepts (by simp))
      | none => exact hrest none (iff_of_true (by simp) (by simp))

/-- The slots of a tuple find their strategies by themselves. -/
theorem elements_suit (as bs : List TypeRef) : Gives (fun es => ∀ e ∈ es, e.Suited)
    (all (List.zipWith (b.element .tuple none) as bs)) := by
  induction as generalizing bs with
  | nil => exact gives_ok fun e he => absurd he List.not_mem_nil
  | cons a as ih =>
      cases bs with
      | nil => exact gives_ok fun e he => absurd he List.not_mem_nil
      | cons d bs =>
          refine (gives_both (element_suits none) (ih bs)).map fun q hq e he => ?_
          rcases List.mem_cons.mp he with rfl | he
          · exact hq.1.mpr (by simp)
          · exact hq.2 e he

/-- **A container** is suited exactly if the strategy that its elements or values are given takes
what stands there. -/
theorem shape_suits (given : Option Strategy)
    (hgiven : given.isSome = true → perElement source destination = true) :
    Gives (fun sh => (∀ e ∈ sh.elements, e.Suited) ↔ ∀ s ∈ given,
        s.Accepts (helperSlot false source destination).1 (helperSlot false source destination).2)
      (b.shape given source destination) := by
  unfold shape
  split
  · refine (element_suits given).map fun e he => ?_
    simpa [Shape.elements, helperSlot] using he
  · refine (gives_both (element_suits none) (element_suits given)).map fun q hq => ?_
    simpa [Shape.elements, helperSlot, hq.1.mpr (by simp)] using hq.2
  · split
    · refine (elements_suit _ _).map fun es hes => iff_of_true hes fun s hs => ?_
      -- a tuple is mapped slot by slot only without a strategy
      exact absurd (hgiven (Option.isSome_of_mem hs)) Bool.false_ne_true
    · exact gives_error _
  · exact gives_error _

/-! ## 4. Plans -/

theorem structural_suits :
    Gives (Plan.Suited source destination) (b.structural source destination) := by
  unfold structural
  split
  · exact (shape_suits none nofun).map fun sh hsh => hsh.mpr (by simp)
  · split
    · rename_i key hkey
      exact gives_ok (BuildContext.declaredPair?_eq_some hkey)
    · split
      · exact gives_ok trivial
      · exact gives_error _

theorem takes_of_mem_matchingMethods {cs : List (TypeDecl × Method)} {subject returns : TypeRef}
    {q : TypeDecl × Method} (h : q ∈ matchingMethods cs subject returns) :
    takes q.2 subject = true := by
  unfold matchingMethods at h
  dsimp only at h
  split at h
  · exact (List.mem_filter.mp (List.mem_filter.mp h).1).2
  · exact (List.mem_filter.mp h).2

/-- A method is found by its subject. -/
theorem findMethod_suits (name : String) :
    Gives (fun s : Strategy => s.Accepts source destination)
      (b.findMethod h name source destination).1 := by
  unfold findMethod
  dsimp only
  split
  · exact gives_error _
  · split
    · exact gives_error _
    · rename_i owner m hmatching
      refine gives_ok ?_
      have htakes := takes_of_mem_matchingMethods (hmatching ▸ List.mem_cons_self)
      unfold takes at htakes
      show ((m.subject?.map Parameter.ty).getD source).sameShape source = true
      split at htakes
      · rename_i p hp
        rw [hp]
        exact htakes
      · cases htakes
    · exact gives_error _

/-- **The strategy that a directive names** takes what stands in its slot exactly if it is for the
types there. -/
theorem explicit_suits (b : PropertyBuilder) (h : Helpers) (c : Conversion)
    (source destination : TypeRef) :
    Gives (fun s : Strategy =>
        s.Accepts (b.givenSlot source destination).1 (b.givenSlot source destination).2 ↔
          c.Fits b.schema (b.givenSlot source destination).1 (b.givenSlot source destination).2)
      (b.explicit h c source destination).1 := by
  cases c with
  | resolver path =>
      unfold explicit
      dsimp only
      split
      · rename_i r hr
        have hsource : (h.resolver r).1.source = r.source := by
          unfold Helpers.resolver
          split <;> rfl
        refine gives_ok ⟨fun haccepts r' hr' => ?_, fun hfits => ?_⟩
        · obtain rfl := Option.some.inj (hr.symm.trans hr')
          exact hsource ▸ haccepts
        · exact (congrArg (TypeRef.sameShape · _) hsource).trans (hfits r hr)
      · exact gives_error _
  | method name => exact (findMethod_suits name).imp fun s hs => iff_of_true hs trivial
  | mapper p q =>
      unfold explicit
      dsimp only
      split
      · exact gives_error _
      · exact gives_ok Iff.rfl

/-- A strategy is put on the slot that it was looked up for. -/
theorem applyStrategy_suits (b : PropertyBuilder) (s : Strategy) (source destination : TypeRef) :
    Gives (fun plan => plan.Suited source destination ↔
        s.Accepts (b.givenSlot source destination).1 (b.givenSlot source destination).2)
      (b.applyStrategy s source destination) := by
  unfold applyStrategy givenSlot
  split
  · rename_i h
    rw [Bool.and_eq_true, Bool.not_eq_true'] at h
    rw [h.1]
    refine (shape_suits (some s) fun _ => h.2).map fun sh hsh => ?_
    simpa [Plan.Suited] using hsh
  · rename_i h
    rw [helperSlot_of_whole h]
    exact (gives_true (b.checkOutput s destination)).bind fun _ _ => gives_ok Iff.rfl

/-- **A plan** is suited exactly if what the directive names is for the types of its slot. -/
theorem plan_suits (b : PropertyBuilder) (h : Helpers) (source destination : TypeRef) :
    Gives (fun plan => plan.Suited source destination ↔ ∀ c ∈ b.directives.conversion,
        c.Fits b.schema (b.givenSlot source destination).1 (b.givenSlot source destination).2)
      (b.plan h source destination).1 := by
  unfold plan
  split
  · rename_i hnone
    rw [hnone]
    exact structural_suits.imp fun plan hplan => iff_of_true hplan (by simp)
  · rename_i c hc
    split
    · exact gives_error _
    · have hexplicit := b.explicit_suits h c source destination
      split
      · exact gives_error _
      · rename_i s k he
        rw [he] at hexplicit
        refine (b.applyStrategy_suits s source destination).imp fun plan hplan => ?_
        refine (hplan.trans (hexplicit s rfl)).trans ⟨fun hfits c' hc' => ?_, fun hfits => ?_⟩
        · obtain rfl := Option.some.inj (hc.symm.trans hc')
          exact hfits
        · exact hfits c hc

end PropertyBuilder

/-! ## 5. Properties -/

/-- The mapping of a plan is suited exactly if the plan is. -/
theorem Plan.suited_toMapping {plan : Plan} {hs : List Hop} {e : PropertyEnd}
    {d : PropertyDirectives} {source : TypeRef}
    (hterminal : (plan.toMapping hs e d).terminal.ty = source) :
    (plan.toMapping hs e d).Suited ↔ plan.Suited source e.ty := by
  cases plan with
  | copy =>
      refine iff_of_true ⟨?_, ?_⟩ trivial
      · simp [toMapping]
      · simp [toMapping, Shape.elements]
  | strategy s =>
      refine ⟨fun h => hterminal ▸ h.whole s rfl, fun h => ⟨fun t ht => ?_, fun e he => ?_⟩⟩
      · obtain rfl := Option.some.inj ht
        exact hterminal.symm ▸ h
      · exact absurd he List.not_mem_nil
  | shape sh => exact ⟨fun h => h.slots, fun h => ⟨by simp [toMapping], h⟩⟩

namespace Builder

/-- **The property of a pair** is suited exactly if what its directive names is for the types of its
slot. -/
theorem property_suits (b : Builder) (h : Helpers) (m : PropertyMatch) :
    Gives (fun p => p.destination = PropertyEnd.ofProperty m.destination ∧
        (p.Suited ↔ m.Fits b.schema)) (b.property h m).1 := by
  intro p hp
  obtain ⟨last, plan, hs, hlast, hplan, hhops, rfl⟩ := b.property_planned h m p hp
  refine ⟨rfl, ?_⟩
  have hbare := (PropertyBuilder.hopPolicies_gives hs [] _ hs hhops).1
  have hterminal := Plan.terminal_toMapping hlast hbare plan
    (PropertyEnd.ofProperty m.destination) m.directives
  have hsuits := PropertyBuilder.plan_suits _ h _ _ plan hplan
  refine ((Plan.suited_toMapping hterminal).trans hsuits).trans ?_
  rw [PropertyMatch.Fits, PropertyMatch.slot_eq hlast]
  exact Iff.rfl

end Builder

end TypeMapper

import TypeMapper.Proofs.Construction.Attempt
import TypeMapper.Proofs.Construction.Helpers
import TypeMapper.Proofs.Matching.Split
/-!
# What the construction of properties comes to

Function by function: what is built has only supplied strategies, and what cannot be built is
explained at the property. So a pair that is left out leaves an error behind.

* `Builds`: the judgement on a step that may also need more helpers.
* `PropertyBuilder.shape_meets`, `PropertyBuilder.plan_builds`: containers and plans.
* `Builder.property_builds`: the property of a pair; `Builder.property_settles`: a property or
  reports, never both and never neither.
* `Builder.properties_forall₂`, `Builder.properties_built`: the properties of all pairs, in order.
* `Builder.records_iff`: which pairs of a run have a property; `Builder.records_iff_of_mem_pairs`: for
  the pairs of a matching.
-/

namespace TypeMapper

open Attempt

/-- A step that may need more helpers: they grow, and the attempt is judged with them. -/
structure Builds {α : Type} (place : Location) (h : Helpers) (P : Helpers → α → Prop)
    (x : Attempt α × Helpers) : Prop where
  grow : Helpers.Grow h x.2
  meets : Meets place (P x.2) x.1

/-- A step that needs no more helpers. -/
theorem builds_still {α : Type} {place : Location} {h : Helpers} {P : Helpers → α → Prop}
    {x : Attempt α} (hx : Meets place (P h) x) : Builds place h P (x, h) :=
  ⟨Helpers.Grow.refl h, hx⟩

/-! ## 1. Slots -/

/-- The strategies of a plan. -/
def Plan.strategies : Plan → List Strategy
  | .copy => []
  | .strategy s => [s]
  | .shape s => s.elements.filterMap ElementMapping.strategy

theorem Plan.strategies_toMapping (plan : Plan) (hops : List Hop) (destination : PropertyEnd)
    (d : PropertyDirectives) :
    (plan.toMapping hops destination d).strategies = plan.strategies := by
  cases plan <;> rfl

namespace PropertyBuilder

variable {b : PropertyBuilder} {h : Helpers} {slot : Slot} {s : Strategy}
  {source destination : TypeRef}

theorem checkOutput_meets : Meets b.place (fun _ => True) (b.checkOutput s destination) := by
  unfold checkOutput
  split
  · exact meets_ok trivial
  · split
    · exact meets_fail rfl
    · split
      · exact meets_fail rfl
      · exact meets_ok trivial

theorem slotStrategy_meets : Meets b.place (fun o => ∀ s ∈ o, s.Supplied b.toBuilder h)
    (b.slotStrategy source destination) := by
  unfold slotStrategy
  split
  · refine meets_ok fun s hs => ?_
    rw [← Option.some.inj hs]
    exact b.supplied_delegate h _
  · split
    · exact meets_ok nofun
    · exact meets_fail rfl

theorem slotPolicy_meets :
    Meets b.place (fun _ => True) (b.slotPolicy slot source destination) := by
  unfold slotPolicy
  split
  · split
    · exact meets_ok trivial
    · split
      · exact meets_ok trivial
      · exact meets_fail rfl
  · split <;> exact meets_ok trivial

theorem slotPolicy?_meets {given : Option Strategy} :
    Meets b.place (fun _ => True) (b.slotPolicy? slot given source destination) := by
  unfold slotPolicy?
  split
  · exact meets_ok trivial
  · split
    · exact meets_ok trivial
    · exact slotPolicy_meets.map fun _ _ => trivial

/-- **A slot** has the given strategy, or delegates, or has none. -/
theorem element_meets {given : Option Strategy} (hg : ∀ s ∈ given, s.Supplied b.toBuilder h) :
    Meets b.place (fun e => ∀ s ∈ e.strategy, s.Supplied b.toBuilder h)
      (b.element slot given source destination) := by
  unfold element
  cases given with
  | some s => exact checkOutput_meets.bind fun _ _ => slotPolicy?_meets.bind fun _ _ => meets_ok hg
  | none =>
      refine (slotStrategy_meets (h := h)).bind fun strategy hs => ?_
      cases strategy with
      | some s =>
          exact checkOutput_meets.bind fun _ _ => slotPolicy?_meets.bind fun _ _ => meets_ok hs
      | none => exact slotPolicy?_meets.bind fun _ _ => meets_ok nofun

/-- **A container** has slots of that kind only. -/
theorem shape_meets (given : Option Strategy) (hg : ∀ s ∈ given, s.Supplied b.toBuilder h) :
    Meets b.place (fun sh => ∀ s ∈ Plan.strategies (.shape sh), s.Supplied b.toBuilder h)
      (b.shape given source destination) := by
  have hnone : ∀ s ∈ (none : Option Strategy), s.Supplied b.toBuilder h := nofun
  -- the strategies of a container are those of its slots
  have hslots : ∀ sh : Shape, (∀ e ∈ sh.elements, ∀ s ∈ e.strategy, s.Supplied b.toBuilder h) →
      ∀ s ∈ Plan.strategies (.shape sh), s.Supplied b.toBuilder h := fun sh hsh s hs => by
    obtain ⟨e, he, hse⟩ := List.mem_filterMap.mp hs
    exact hsh e he s hse
  unfold shape
  split
  · refine (element_meets hg).map fun e he => hslots _ fun e' he' => ?_
    rw [List.mem_singleton.mp he']
    exact he
  · refine ((element_meets hnone).both (element_meets hg)).map fun p hp => hslots _ fun e he => ?_
    rcases List.mem_cons.mp he with rfl | he
    · exact hp.1
    · rw [List.mem_singleton.mp he]
      exact hp.2
  · split
    · refine (Meets.all fun x hx => ?_).map fun es hes => hslots (.tuple es) hes
      rw [← List.map_uncurry_zip_eq_zipWith] at hx
      obtain ⟨p, -, rfl⟩ := List.mem_map.mp hx
      exact element_meets hnone
    · exact meets_fail rfl
  · exact meets_fail rfl

/-! ## 2. Plans -/

theorem structural_meets :
    Meets b.place (fun plan => ∀ s ∈ plan.strategies, s.Supplied b.toBuilder h)
      (b.structural source destination) := by
  unfold structural
  split
  · exact (shape_meets none nofun).map fun _ => id
  · split
    · refine meets_ok fun s hs => ?_
      rw [List.mem_singleton.mp hs]
      exact b.supplied_delegate h _
    · split
      · exact meets_ok fun s hs => absurd hs List.not_mem_nil
      · exact meets_fail rfl

theorem findMethod_builds (name : String) : Builds b.place h (fun k s => s.Supplied b.toBuilder k)
    (b.findMethod h name source destination) := by
  unfold findMethod
  dsimp only
  split
  · exact builds_still (meets_fail rfl)
  · split
    · exact builds_still (meets_fail rfl)
    · rename_i owner m _
      obtain ⟨hgrow, hin⟩ :=
        h.grow_addParameters (m.extras.map fun p => EntryParameter.ofLocal p.name p.ty)
      exact ⟨hgrow, fun p hp => hin _ (List.mem_map_of_mem hp)⟩
    · exact builds_still (meets_fail rfl)

theorem checkHelper_meets (b : PropertyBuilder) (c : Conversion) (source destination : TypeRef) :
    Meets b.place (fun _ => True) (b.checkHelper c source destination) := by
  unfold checkHelper
  split
  · exact meets_ok trivial
  · dsimp only
    split
    · exact meets_fail rfl
    · exact meets_ok trivial

/-- **The strategy that a directive names** is supplied. -/
theorem explicit_builds (b : PropertyBuilder) (h : Helpers) (c : Conversion)
    (source destination : TypeRef) : Builds b.place h (fun k s => s.Supplied b.toBuilder k)
      (b.explicit h c source destination) := by
  cases c with
  | resolver path =>
      unfold explicit
      dsimp only
      split
      · rename_i r _
        exact ⟨(h.grow_resolver r).1, (h.grow_resolver r).2⟩
      · exact builds_still (meets_fail rfl)
  | method name => exact findMethod_builds name
  | mapper s d =>
      unfold explicit
      dsimp only
      split
      · exact builds_still (meets_fail rfl)
      · exact builds_still (meets_ok (b.supplied_delegate h _))

theorem applyStrategy_meets (hs : s.Supplied b.toBuilder h) :
    Meets b.place (fun plan => ∀ s ∈ plan.strategies, s.Supplied b.toBuilder h)
      (b.applyStrategy s source destination) := by
  unfold applyStrategy
  split
  · exact (shape_meets (some s) fun t ht => Option.some.inj ht ▸ hs).map fun _ => id
  · refine checkOutput_meets.bind fun _ _ => meets_ok fun t ht => ?_
    rw [List.mem_singleton.mp ht]
    exact hs

/-- **A plan** has supplied strategies only. -/
theorem plan_builds (b : PropertyBuilder) (h : Helpers) (source destination : TypeRef) :
    Builds b.place h (fun k plan => ∀ s ∈ plan.strategies, s.Supplied b.toBuilder k)
      (b.plan h source destination) := by
  unfold plan
  split
  · exact builds_still structural_meets
  · rename_i c _
    have hcheck := b.checkHelper_meets c source destination
    split
    · rename_i ds hds
      rw [hds] at hcheck
      exact builds_still hcheck
    · obtain ⟨hgrow, hmeets⟩ := b.explicit_builds h c source destination
      split
      · rename_i ds k he
        rw [he] at hgrow hmeets
        exact ⟨hgrow, hmeets⟩
      · rename_i s k he
        rw [he] at hgrow hmeets
        exact ⟨hgrow, applyStrategy_meets hmeets⟩

/-! ## 3. Chains -/

theorem hopPolicy_meets (plan : Plan) (e : PropertyEnd) (terminal : Bool) (before : List String)
    (hop : Hop) : Meets b.place (fun _ => True) (b.hopPolicy plan e terminal before hop) := by
  unfold hopPolicy
  repeat' split
  all_goals first | exact meets_ok trivial | exact meets_fail rfl

theorem hopPolicies_meets (plan : Plan) (e : PropertyEnd) (before : List String)
    (hops : List Hop) : Meets b.place (fun _ => True) (b.hopPolicies plan e before hops) := by
  induction hops generalizing before with
  | nil => exact meets_ok trivial
  | cons hop rest ih =>
      exact ((hopPolicy_meets plan e _ _ hop).both (ih _)).map fun _ _ => trivial

end PropertyBuilder

/-! ## 4. Properties -/

namespace Builder

variable {b : Builder} {h : Helpers} {m : PropertyMatch} {ms : List PropertyMatch}

/-- What the property of a pair has to be. -/
structure Fills (b : Builder) (h : Helpers) (m : PropertyMatch) (p : PropertyMapping) : Prop where
  destination : p.destination = PropertyEnd.ofProperty m.destination
  supplied : ∀ s ∈ p.strategies, s.Supplied b h

/-- **The property of a pair** fills its destination. -/
theorem property_builds (hm : m.source ≠ []) :
    Builds (Location.ofProperty b.key.destination m.destination.name) h (fun k => b.Fills k m)
      (b.property h m) := by
  unfold property
  dsimp only
  split
  · rename_i hlast
    exact absurd (List.getLast?_eq_none_iff.mp hlast) (mt List.map_eq_nil_iff.mp hm)
  · rename_i last _
    obtain ⟨hgrow, hmeets⟩ := PropertyBuilder.plan_builds
      { b with
        place := Location.ofProperty b.key.destination (PropertyEnd.ofProperty m.destination).name
        directives := m.directives }
      h last.ty (PropertyEnd.ofProperty m.destination).ty
    split
    · rename_i ds k he
      rw [he] at hgrow hmeets
      exact ⟨hgrow, hmeets⟩
    · rename_i plan k he
      rw [he] at hgrow hmeets
      refine ⟨hgrow, (PropertyBuilder.hopPolicies_meets plan _ [] _).map fun hops _ => ⟨rfl, ?_⟩⟩
      rw [Plan.strategies_toMapping]
      exact hmeets

/-- **The properties of pairs** have supplied strategies only. -/
theorem properties_supplied (hms : ∀ m ∈ ms, m.source ≠ []) :
    Helpers.Grow h (b.properties h ms).2.1 ∧
      ∀ p ∈ (b.properties h ms).1, ∀ s ∈ p.strategies, s.Supplied b (b.properties h ms).2.1 := by
  induction ms generalizing h with
  | nil => exact ⟨Helpers.Grow.refl h, fun p hp => absurd hp List.not_mem_nil⟩
  | cons m ms ih =>
      obtain ⟨hm, hms⟩ := List.forall_mem_cons.mp hms
      obtain ⟨hgrow, hmeets⟩ := property_builds (b := b) (h := h) hm
      obtain ⟨hlater, hrest⟩ := ih (h := (b.property h m).2) hms
      refine ⟨hgrow.trans hlater, fun p hp s hs => ?_⟩
      rcases mem_properties_cons.mp hp with hfirst | hp
      · rw [hfirst] at hmeets
        exact (hmeets.supplied s hs).grow hlater
      · exact hrest p hp s hs

/-- **The properties of pairs**, one for each if there is no error, are what each pair gives. -/
theorem properties_forall₂ {R : PropertyMatch → PropertyMapping → Prop}
    (hR : ∀ m h, Gives (R m) (b.property h m).1) (hms : ∀ m ∈ ms, m.source ≠ [])
    (hclean : Diagnostic.hasErrors (b.properties h ms).2.2 = false) :
    List.Forall₂ R ms (b.properties h ms).1 := by
  induction ms generalizing h with
  | nil => exact .nil
  | cons m ms ih =>
      obtain ⟨-, hmeets⟩ := property_builds (b := b) (h := h) (hms m List.mem_cons_self)
      unfold properties at hclean ⊢
      dsimp only at hclean ⊢
      rw [Diagnostic.hasErrors_append, Bool.or_eq_false_iff] at hclean
      obtain ⟨p, hp, -⟩ := hmeets.exists_ok hclean.1
      have hrest := ih (fun k hk => hms k (List.mem_cons_of_mem m hk)) hclean.2
      rw [hp]
      exact .cons (hR m h p hp) hrest

/-- **No pair is left out without an error.** -/
theorem map_destination_properties (hms : ∀ m ∈ ms, m.source ≠ [])
    (hclean : Diagnostic.hasErrors (b.properties h ms).2.2 = false) :
    (b.properties h ms).1.map PropertyMapping.destination =
      ms.map fun m => PropertyEnd.ofProperty m.destination := by
  have hfields := properties_forall₂ (fun m h => b.property_fields h m) hms hclean
  rw [← List.forall₂_eq_eq_eq, List.forall₂_map_left_iff, List.forall₂_map_right_iff]
  exact (hfields.imp fun _ _ h => h.1).flip

/-- What the properties of pairs come to: supplied strategies, errors for what is left out, and
all destinations in order if there is no error. -/
structure Built (b : Builder) (h : Helpers) (ms : List PropertyMatch)
    (r : List PropertyMapping × Helpers × List Diagnostic) : Prop where
  grow : Helpers.Grow h r.2.1
  supplied : ∀ p ∈ r.1, ∀ s ∈ p.strategies, s.Supplied b r.2.1
  complete : Diagnostic.hasErrors r.2.2 = false →
    r.1.map PropertyMapping.destination = ms.map fun m => PropertyEnd.ofProperty m.destination

theorem properties_built (hms : ∀ m ∈ ms, m.source ≠ []) : Built b h ms (b.properties h ms) :=
  ⟨(properties_supplied hms).1, (properties_supplied hms).2, map_destination_properties hms⟩

/-- A run over pairs records a property for the destination of a name. -/
def Records (b : Builder) (h : Helpers) (ms : List PropertyMatch) (name : String) : Prop :=
  ∃ p ∈ (b.properties h ms).1, p.destination.name = name

/-- A run over pairs reports something at the destination of a name. -/
def Reports (b : Builder) (h : Helpers) (ms : List PropertyMatch) (name : String) : Prop :=
  ∃ d ∈ (b.properties h ms).2.2, d.location = Location.ofProperty b.key.destination name

variable {name : String}

theorem records_cons : b.Records h (m :: ms) name ↔
    ((∃ p, (b.property h m).1 = .ok p) ∧ m.destination.name = name) ∨
      b.Records (b.property h m).2 ms name := by
  have hname : ∀ p, (b.property h m).1 = .ok p → p.destination.name = m.destination.name :=
    fun p hp => congrArg PropertyEnd.name (b.property_fields h m p hp).1
  constructor
  · rintro ⟨p, hp, rfl⟩
    exact (mem_properties_cons.mp hp).imp (fun hfirst => ⟨⟨p, hfirst⟩, (hname p hfirst).symm⟩)
      fun hrest => ⟨p, hrest, rfl⟩
  · rintro (⟨⟨p, hfirst⟩, rfl⟩ | ⟨p, hrest, rfl⟩)
    · exact ⟨p, mem_properties_cons.mpr (.inl hfirst), hname p hfirst⟩
    · exact ⟨p, mem_properties_cons.mpr (.inr hrest), rfl⟩

theorem reports_cons (hm : m.source ≠ []) : b.Reports h (m :: ms) name ↔
    ((¬ ∃ p, (b.property h m).1 = .ok p) ∧ m.destination.name = name) ∨
      b.Reports (b.property h m).2 ms name := by
  have hsettles := (property_builds (b := b) (h := h) hm).meets.settles
  constructor
  · rintro ⟨d, hd, hplace⟩
    refine (mem_reports_cons.mp hd).imp (fun hfirst => ?_) fun hrest => ⟨d, hrest, hplace⟩
    have hnone := mt hsettles.made_iff.mp (List.ne_nil_of_mem hfirst)
    have hown := ((hsettles.refused hnone).2 d hfirst).2
    exact ⟨hnone, Option.some.inj (congrArg Location.property (hown.symm.trans hplace))⟩
  · rintro (⟨hnone, rfl⟩ | ⟨d, hrest, hplace⟩)
    · obtain ⟨hne, hall⟩ := hsettles.refused hnone
      obtain ⟨d, hd⟩ := List.exists_mem_of_ne_nil _ hne
      exact ⟨d, mem_reports_cons.mpr (.inl hd), (hall d hd).2⟩
    · exact ⟨d, mem_reports_cons.mpr (.inr hrest), hplace⟩

/-- Nothing is recorded or reported for a name that no pair has. -/
theorem not_records_and_not_reports (hms : ∀ m ∈ ms, m.source ≠ [])
    (hname : ∀ m ∈ ms, m.destination.name ≠ name) :
    ¬ b.Records h ms name ∧ ¬ b.Reports h ms name := by
  induction ms generalizing h with
  | nil => exact ⟨fun ⟨_, hp, _⟩ => List.not_mem_nil hp, fun ⟨_, hd, _⟩ => List.not_mem_nil hd⟩
  | cons m ms ih =>
      obtain ⟨hm, hms⟩ := List.forall_mem_cons.mp hms
      obtain ⟨hne, hname⟩ := List.forall_mem_cons.mp hname
      rw [records_cons, reports_cons hm, not_or, not_or]
      exact ⟨⟨fun h => hne h.2, (ih hms hname).1⟩, ⟨fun h => hne h.2, (ih hms hname).2⟩⟩

/-- **A run over pairs of different destinations** records a property for exactly those at whose
destination it reports nothing. -/
theorem records_iff (hms : ∀ m ∈ ms, m.source ≠ [])
    (hnames : (ms.map fun m => m.destination.name).Nodup) (hm : m ∈ ms) :
    b.Records h ms m.destination.name ↔ ¬ b.Reports h ms m.destination.name := by
  induction ms generalizing h with
  | nil => exact absurd hm List.not_mem_nil
  | cons first rest ih =>
      obtain ⟨hfirst, hrest⟩ := List.forall_mem_cons.mp hms
      obtain ⟨hfresh, hlater⟩ := List.nodup_cons.mp hnames
      have hne : ∀ m' ∈ rest, m'.destination.name ≠ first.destination.name := fun m' hm' heq =>
        hfresh (List.mem_map.mpr ⟨m', hm', heq⟩)
      rw [records_cons, reports_cons hfirst]
      rcases List.mem_cons.mp hm with rfl | hm
      · -- only the first pair counts for its own name
        obtain ⟨hrec, hrep⟩ := not_records_and_not_reports (b := b) (h := (b.property h m).2) hrest
          hne
        rw [or_iff_left hrec, or_iff_left hrep, and_iff_left rfl, and_iff_left rfl, not_not]
      · -- the first pair has another name
        have hother := (hne m hm).symm
        rw [or_iff_right fun h => hother h.2, or_iff_right fun h => hother h.2]
        exact ih hrest hlater hm

/-- **Of the pairs of a matching** exactly those have a property at whose destination nothing is
reported. -/
theorem records_iff_of_mem_pairs {s : Schema} {key : MappingKey} {index : Option UInt32}
    (hm : m ∈ (matchProperties s key index).pairs) :
    b.Records h (matchProperties s key index).pairs m.destination.name ↔
      ¬ b.Reports h (matchProperties s key index).pairs m.destination.name :=
  records_iff (fun _ => Sides.source_ne_nil_of_mem_pairs) (matchProperties_nodup_names s key index)
    hm

end Builder

end TypeMapper

import TypeMapper.Proofs.Construction.Nullability
/-!
# Where strategies are put

A property has one strategy for its whole value, or at most one for each slot of a container. The
strategy that a directive names is for the whole value, for the elements of a collection or for the
values of a map; every other slot finds its own, a declared mapping between its two types. So what
is known of the strategies that are found and of the one that is named is known of all of them.

* `Shape.Places`, `Plan.Places`, `PropertyMapping.Places`: strategies judged where they are put.
* `PropertyBuilder.shape_places`, `applyStrategy_places`, `plan_places`: function by function.
* `Builder.property_places`: its strategies.
-/

namespace TypeMapper

open Attempt

/-! ## 1. Judgements on strategies -/

/-- A judgement on a strategy and the types of the slot that it is put on, which holds of a slot. -/
def ElementMapping.Has (G : TypeRef → TypeRef → Strategy → Prop) (e : ElementMapping) : Prop :=
  ∀ s ∈ e.strategy, G e.source e.destination s

theorem ElementMapping.Has.imp {F G : TypeRef → TypeRef → Strategy → Prop} {e : ElementMapping}
    (h : e.Has F) (hFG : ∀ a d s, F a d s → G a d s) : e.Has G :=
  fun s hs => hFG _ _ s (h s hs)

/-- The slots that are given the strategy of a directive meet `G`, the others meet `F`. -/
def Shape.Places (F G : TypeRef → TypeRef → Strategy → Prop) : Shape → Prop
  | .scalar => True
  | .collection _ _ e => e.Has G
  | .map _ k v => k.Has F ∧ v.Has G
  | .tuple es => ∀ e ∈ es, e.Has F

/-- The strategies of a plan between two types meet `F` or `G`. -/
def Plan.Places (F G : TypeRef → TypeRef → Strategy → Prop) (source destination : TypeRef) :
    Plan → Prop
  | .copy => True
  | .strategy s => G source destination s
  | .shape sh => sh.Places F G

/-- The strategies of a property meet `F` or `G`. -/
structure PropertyMapping.Places (F G : TypeRef → TypeRef → Strategy → Prop)
    (p : PropertyMapping) : Prop where
  whole : ∀ s ∈ p.strategy, G p.terminal.ty p.destination.ty s
  slots : p.shape.Places F G

/-- Where every strategy that is found meets `G`, all slots do. -/
theorem Shape.Places.elements {F G : TypeRef → TypeRef → Strategy → Prop} {sh : Shape}
    (h : sh.Places F G) (hFG : ∀ a d s, F a d s → G a d s) : ∀ e ∈ sh.elements, e.Has G := by
  cases sh with
  | scalar => exact nofun
  | collection k j e => exact List.forall_mem_singleton.mpr h
  | map k key value =>
      exact List.forall_mem_cons.mpr ⟨h.1.imp hFG, List.forall_mem_singleton.mpr h.2⟩
  | tuple es => exact fun e he => (h e he).imp hFG

/-! ## 2. Slots -/

namespace PropertyBuilder

variable {b : PropertyBuilder} {h : Helpers} {slot : Slot} {source destination : TypeRef}
  {F G : TypeRef → TypeRef → Strategy → Prop}

/-- A slot that is given its strategy. -/
theorem element_given {s : Strategy}
    (hs : Gives (fun _ => G source destination s) (b.checkOutput s destination)) :
    Gives (ElementMapping.Has G) (b.element slot (some s) source destination) := by
  unfold element
  refine hs.bind fun _ hG => (gives_true _).bind fun _ _ => gives_ok fun t ht => ?_
  exact Option.some.inj ht ▸ hG

variable (hfound : ∀ a d key, b.declaredPair? a d = some key → F a d (b.delegate key))

include hfound

theorem slotStrategy_found :
    Gives (fun o => ∀ s ∈ o, F source destination s) (b.slotStrategy source destination) := by
  unfold slotStrategy
  split
  · rename_i key hkey
    exact gives_ok fun s hs => Option.some.inj hs ▸ hfound _ _ key hkey
  · split
    · exact gives_ok nofun
    · exact gives_error _

/-- A slot that finds its strategy. -/
theorem element_found :
    Gives (ElementMapping.Has F) (b.element slot none source destination) := by
  unfold element
  refine (slotStrategy_found hfound).bind fun strategy hF => ?_
  have hrest : Gives (ElementMapping.Has F) ((do
      let policy ← b.slotPolicy? slot strategy source destination
      return ⟨source, destination, b.schema.isByValue source, strategy, policy⟩) :
        Attempt ElementMapping) :=
    (gives_true _).bind fun _ _ => gives_ok hF
  cases strategy with
  | some s => exact (gives_true _).bind fun _ _ => hrest
  | none => exact hrest

/-- The slots of a tuple find their strategies. -/
theorem elements_found (as bs : List TypeRef) :
    Gives (fun es => ∀ e ∈ es, e.Has F) (all (List.zipWith (b.element .tuple none) as bs)) := by
  induction as generalizing bs with
  | nil => exact gives_ok nofun
  | cons a as ih =>
      cases bs with
      | nil => exact gives_ok nofun
      | cons d bs =>
          exact (gives_both (element_found hfound) (ih bs)).map
            fun q hq => List.forall_mem_cons.mpr hq

variable (hFG : ∀ a d s, F a d s → G a d s)

include hFG

/-- **A container** puts the strategy that it is given on elements or map values. -/
theorem shape_places (given : Option Strategy)
    (hgiven : ∀ s ∈ given, Gives (fun _ => G (helperSlot false source destination).1
        (helperSlot false source destination).2 s)
      (b.checkOutput s (helperSlot false source destination).2)) :
    Gives (Shape.Places F G) (b.shape given source destination) := by
  have hslot {slot : Slot} {a d : TypeRef}
      (hslot : ∀ s ∈ given, Gives (fun _ => G a d s) (b.checkOutput s d)) :
      Gives (ElementMapping.Has G) (b.element slot given a d) := by
    cases given with
    | some s => exact element_given (hslot s rfl)
    | none => exact (element_found hfound).imp fun e he => he.imp hFG
  unfold shape
  split
  · exact (hslot hgiven).map fun _ => id
  · exact (gives_both (element_found hfound) (hslot hgiven)).map fun _ => id
  · split
    · exact (elements_found hfound _ _).map fun _ => id
    · exact gives_error _
  · exact gives_error _

/-! ## 3. Plans -/

theorem structural_places :
    Gives (Plan.Places F G source destination) (b.structural source destination) := by
  unfold structural
  split
  · exact (shape_places hfound hFG none nofun).map fun _ => id
  · split
    · rename_i key hkey
      exact gives_ok (hFG _ _ _ (hfound _ _ key hkey))
    · split
      · exact gives_ok trivial
      · exact gives_error _

omit hfound hFG in
/-- The types of the slot that an explicit strategy of a property is for. -/
def givenSlot (b : PropertyBuilder) (source destination : TypeRef) : TypeRef × TypeRef :=
  helperSlot b.directives.completeCollection source destination

omit hfound hFG in
theorem helperSlot_of_whole {whole : Bool} (h : ¬ (!whole && perElement source destination) = true) :
    helperSlot whole source destination = (source, destination) := by
  cases whole with
  | true => rfl
  | false =>
      unfold helperSlot
      rw [if_neg Bool.false_ne_true]
      split
      · exact absurd rfl h
      · exact absurd rfl h
      · rfl

/-- **A strategy is put on the slot that it was looked up for.** -/
theorem applyStrategy_places {s : Strategy}
    (hs : Gives (fun _ => G (b.givenSlot source destination).1 (b.givenSlot source destination).2 s)
      (b.checkOutput s (b.givenSlot source destination).2)) :
    Gives (Plan.Places F G source destination) (b.applyStrategy s source destination) := by
  unfold applyStrategy
  unfold givenSlot at hs
  split
  · rename_i h
    rw [Bool.and_eq_true, Bool.not_eq_true'] at h
    rw [h.1] at hs
    refine (shape_places hfound hFG (some s) fun t ht => ?_).map fun _ => id
    exact Option.some.inj ht ▸ hs
  · rename_i h
    rw [helperSlot_of_whole h] at hs
    exact hs.bind fun _ hG => gives_ok hG

/-- **A plan** puts the strategy that a directive names on its slot. -/
theorem plan_places
    (hgiven : ∀ c ∈ b.directives.conversion, Gives (fun s =>
        Gives (fun _ =>
            G (b.givenSlot source destination).1 (b.givenSlot source destination).2 s)
          (b.checkOutput s (b.givenSlot source destination).2))
      (b.explicit h c source destination).1) :
    Gives (Plan.Places F G source destination) (b.plan h source destination).1 := by
  unfold plan
  split
  · exact structural_places hfound hFG
  · rename_i c hc
    split
    · exact gives_error _
    · have hexplicit := hgiven c hc
      split
      · exact gives_error _
      · rename_i s k he
        rw [he] at hexplicit
        exact applyStrategy_places hfound hFG (hexplicit s rfl)

end PropertyBuilder

/-! ## 4. Properties -/

theorem Plan.Places.toMapping {F G : TypeRef → TypeRef → Strategy → Prop} {plan : Plan}
    {source : TypeRef} {hs : List Hop} {e : PropertyEnd} {d : PropertyDirectives}
    (h : plan.Places F G source e.ty) (hterminal : (plan.toMapping hs e d).terminal.ty = source) :
    (plan.toMapping hs e d).Places F G := by
  cases plan with
  | copy => exact ⟨nofun, trivial⟩
  | strategy s => exact ⟨fun t ht => Option.some.inj ht ▸ hterminal.symm ▸ h, trivial⟩
  | shape sh => exact ⟨nofun, h⟩

namespace Builder

variable {b : Builder} {h : Helpers} {m : PropertyMatch}

/-- **The strategies of the property of a pair** are those that slots find and the one that the
directive of the pair names. -/
theorem property_places {F G : TypeRef → TypeRef → Strategy → Prop}
    (hfound : ∀ a d key, b.declaredPair? a d = some key → F a d (b.delegate key))
    (hFG : ∀ a d s, F a d s → G a d s)
    (hgiven : ∀ c ∈ m.directives.conversion, ∀ source, Gives (fun s =>
        Gives (fun _ => G ((b.forPair m).givenSlot source m.destination.ty).1
            ((b.forPair m).givenSlot source m.destination.ty).2 s)
          ((b.forPair m).checkOutput s ((b.forPair m).givenSlot source m.destination.ty).2))
      ((b.forPair m).explicit h c source m.destination.ty).1) :
    Gives (PropertyMapping.Places F G) (b.property h m).1 := by
  intro p hp
  obtain ⟨last, plan, hs, hlast, hplan, hhops, rfl⟩ := property_planned b h m p hp
  have hplaces := PropertyBuilder.plan_places (b := b.forPair m) hfound hFG
    (fun c hc => hgiven c hc last.ty) plan hplan
  have hbare := (PropertyBuilder.hopPolicies_gives hs [] _ hs hhops).1
  exact hplaces.toMapping (Plan.terminal_toMapping hlast hbare plan _ m.directives)

end Builder

end TypeMapper

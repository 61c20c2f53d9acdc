import TypeMapper.Proofs.Batch.Phases
import TypeMapper.Proofs.Construction.Placement
/-!
# What strategies give

A method and a resolver say what they return, and construction compares it with the destination
that they are put on: the shape has to be the same, and what may be absent goes only where absence
is allowed, unless a directive accepts it. Another mapping is not asked, it makes its own type.

* `Strategy.Yields`: what a strategy gives is for its destination.
* `PropertyMapping.Yields`: so it is for all strategies of a property; `Builder.property_yields`.
* `Batch.yields_of_isValid`: the properties of an accepted mapping.
-/

namespace TypeMapper

/-! ## 1. Outputs and destinations -/

/-- What a strategy says that it gives has the shape of the destination, and may be absent only
where that may be absent or where absence is ignored. -/
def Strategy.Yields (ignoreNull : Bool) (destination : TypeRef) (s : Strategy) : Prop :=
  ∀ out ∈ s.output?, out.sameShape destination = true ∧
    (out.nullable = true → destination.nullable = true ∨ ignoreNull = true)

/-- Another mapping does not say what it gives. -/
theorem Strategy.yields_delegate (ignoreNull : Bool) (destination : TypeRef) (c : DelegateCall) :
    (Strategy.delegate c).Yields ignoreNull destination := nofun

/-- What the strategy of a slot gives is for the slot. -/
def ElementMapping.Yields (ignoreNull : Bool) (e : ElementMapping) : Prop :=
  ∀ s ∈ e.strategy, s.Yields ignoreNull e.destination

/-- What the strategies of a property give is for its destination, and for its slots. -/
structure PropertyMapping.Yields (p : PropertyMapping) : Prop where
  whole : ∀ s ∈ p.strategy, s.Yields p.ignoreNull p.destination.ty
  slots : ∀ e ∈ p.shape.elements, e.Yields p.ignoreNull

/-! ## 2. Binding calls -/

@[simp] theorem Strategy.output?_mapDelegate (f : DelegateCall → DelegateCall) (s : Strategy) :
    (s.mapDelegate f).output? = s.output? := by cases s <;> rfl

theorem forall_yields_map {f : DelegateCall → DelegateCall} {o : Option Strategy}
    {ignoreNull : Bool} {destination : TypeRef} (h : ∀ s ∈ o, s.Yields ignoreNull destination) :
    ∀ s ∈ o.map (Strategy.mapDelegate f), s.Yields ignoreNull destination := by
  intro s hs
  obtain ⟨t, ht, rfl⟩ := Option.map_eq_some_iff.mp hs
  rw [Strategy.Yields, Strategy.output?_mapDelegate]
  exact h t ht

/-- **Binding calls changes nothing** about what strategies give. -/
theorem PropertyMapping.Yields.mapDelegates {p : PropertyMapping} (h : p.Yields)
    (f : DelegateCall → DelegateCall) : (p.mapDelegates f).Yields := by
  refine ⟨forall_yields_map h.whole, fun e he => ?_⟩
  rw [PropertyMapping.mapDelegates, mapStrategies, Shape.elements_mapElements] at he
  obtain ⟨t, ht, rfl⟩ := List.mem_map.mp he
  exact forall_yields_map (h.slots t ht)

/-! ## 3. Properties -/

/-- **A strategy that is checked** gives what is for its destination. -/
theorem PropertyBuilder.checkOutput_yields {b : PropertyBuilder} {destination : TypeRef}
    (s : Strategy) : Gives (fun _ => s.Yields b.directives.ignoreNull destination)
      (b.checkOutput s destination) := by
  unfold checkOutput
  split
  · rename_i hnone
    exact gives_ok fun out hout => absurd (hnone.symm.trans hout) nofun
  · rename_i out hout
    split
    · exact gives_error _
    · rename_i hshape
      split
      · exact gives_error _
      · rename_i hnull
        refine gives_ok fun out' hout' => ?_
        obtain rfl := Option.some.inj (hout.symm.trans hout')
        refine ⟨by simpa using hshape, fun habsent => ?_⟩
        cases hd : destination.nullable with
        | true => exact .inl rfl
        | false => exact .inr (by simpa [habsent, hd] using hnull)

/-- **The property of a pair** has strategies that give what is for it. -/
theorem Builder.property_yields (b : Builder) (h : Helpers) (m : PropertyMatch) :
    Gives PropertyMapping.Yields (b.property h m).1 := by
  intro p hp
  obtain ⟨-, hignore, -⟩ := b.property_fields h m p hp
  have hplaces := property_places
    (F := fun _ d s => s.Yields m.directives.ignoreNull d)
    (G := fun _ d s => s.Yields m.directives.ignoreNull d)
    (fun _ d _ _ => Strategy.yields_delegate _ d _) (fun _ _ _ => id)
    (fun _ _ _ s _ => PropertyBuilder.checkOutput_yields s) p hp
  refine ⟨hignore ▸ hplaces.whole, fun e he => ?_⟩
  rw [hignore]
  exact hplaces.slots.elements (fun _ _ _ => id) e he

/-- **The strategies of an accepted mapping give what is for their destinations.** -/
theorem Batch.yields_of_isValid {s : Schema} {c : Config} {id : MappingId} {m : Mapping}
    (h : (discover s c).arena.get? id = some m) (hv : m.isValid = true) :
    ∀ p ∈ m.properties, p.Yields := by
  obtain ⟨n, l, hpassed⟩ := passed_of_isValid h hv
  obtain ⟨k, g, flag, hk, rfl⟩ := Schema.get?_resolved hpassed.resolved
  obtain ⟨d, -, source, destination, rfl⟩ := Schema.get?_built hk
  intro p hp
  rw [hpassed.properties_eq] at hp
  obtain ⟨q, hq, rfl⟩ := List.mem_map.mp hp
  obtain ⟨_, pair, -, hprop⟩ := Builder.exists_property_of_mem_properties hq
  exact (Builder.property_yields _ _ pair q hprop).mapDelegates g

end TypeMapper

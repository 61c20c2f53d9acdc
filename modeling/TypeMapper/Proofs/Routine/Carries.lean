import TypeMapper.Proofs.Routine.Layout
import TypeMapper.Proofs.Routine.Silent
/-!
# What goes through the values of a routine

The value of a property is made of conversions and copies, of what stands for absent values, and of
what is put around them. A property of expressions that goes through all of these holds of every
value in a routine, and on the way it may rely on the names: what is read and what is bound has a
name that is no mark.

* `Emitter.Carries`: a property of expressions goes through a property mapping.
* `Emitter.Carries.slot`, `collection`, `terminal`, `along`, `property`: function by function.
-/

namespace TypeMapper

open Code

namespace Emitter

variable {e : Emitter} {m : PropertyMapping} {P : Value → Prop}

/-- **A property of expressions goes through the value of a property mapping**: from conversions,
copies and what stands for absent values to what is made of them. -/
structure Carries (e : Emitter) (m : PropertyMapping) (P : Value → Prop) : Prop where
  read : ∀ p byValue, Inert p.code → P (.read p byValue)
  copies : ∀ items byValue target, Inert items.place.code → P (.copies items byValue target)
  standsIn : ∀ v, v.StandsIn → P v
  call : ∀ t ∈ m.strategies, ∀ p byValue, Inert p.code → Gives P (e.convert (some t) p byValue)
  present : ∀ v, P v → P (.present v)
  orStandard : ∀ v, P v → P (.orStandard v)
  cases : ∀ p binding v u, Inert p.code → Inert (words [binding]) → P v → P u →
    P (.cases p binding v u)
  each : ∀ items binding v target g, Inert items.place.code → Inert (words [binding]) → P v →
    P (.each items binding v target g)
  entries : ∀ p kb vb k v target g, Inert p.code → Inert (words [kb]) → Inert (words [vb]) → P k →
    P v → P (.entries p kb vb k v target g)
  tuple : ∀ vs, (∀ v ∈ vs, P v) → P (.tuple vs)

namespace Carries

variable (h : e.Carries m P) {p : Place}

include h

theorem fitted {v : Value} (hv : P v) (wanted : Bool) : P (v.fitted wanted) := by
  unfold Value.fitted
  split
  · exact h.orStandard v hv
  · exact h.present v hv
  · exact hv

theorem convert {s : Option Strategy} (hs : ∀ t ∈ s, t ∈ m.strategies) (hp : Inert p.code)
    (byValue : Bool) : Gives P (e.convert s p byValue) := by
  cases s with
  | none => exact gives_ok (h.read p byValue hp)
  | some t => exact h.call t (hs t rfl) p byValue hp

theorem slot {el : ElementMapping} (hel : ∀ t ∈ el.strategy, t ∈ m.strategies) {dropped : Value}
    (hd : dropped.StandsIn) (hp : Inert p.code) {binding : String} (hb : Inert (words [binding]))
    (label : String) : Gives P (e.slot el p binding dropped label) := by
  unfold Emitter.slot
  split
  · exact (h.convert hel hp _).bind fun v hv => gives_ok (h.fitted hv _)
  · exact (h.convert hel (p := .binding binding false) hb _).bind fun v hv => gives_ok
      (h.cases _ _ _ _ hp hb (h.fitted hv _) (h.standsIn _ (absentValue_standsIn _ hd _)))

theorem collection {el : ElementMapping} (hel : ∀ t ∈ el.strategy, t ∈ m.strategies)
    (hp : Inert p.code) (target : CollectionKind) (label : String) :
    Gives P (e.collection p target el label) := by
  have helement : Inert (words ["element"]) := rfl
  have hslot {el : ElementMapping} (hel : ∀ t ∈ el.strategy, t ∈ m.strategies) : Gives P
      (e.slot el (.binding "element" el.source.nullable) "element" .standard label) :=
    h.slot hel .standard (p := .binding "element" _) helement helement label
  unfold Emitter.collection
  dsimp only
  -- elements are left out or not, and copied or not
  split <;> split
  · exact gives_ok (h.copies _ _ _ hp)
  · exact (hslot (by exact hel)).bind fun v hv => gives_ok (h.each _ _ _ _ _ hp helement hv)
  · exact gives_ok (h.copies _ _ _ hp)
  · exact (hslot hel).bind fun v hv => gives_ok (h.each _ _ _ _ _ hp helement hv)

theorem mapEntries {k v : ElementMapping} (hk : ∀ t ∈ k.strategy, t ∈ m.strategies)
    (hv : ∀ t ∈ v.strategy, t ∈ m.strategies) (hp : Inert p.code) (target : MapKind)
    (label : String) : Gives P (e.entries p target k v label) := by
  have hkey : Inert (words ["key"]) := rfl
  have hvalue : Inert (words ["value"]) := rfl
  unfold Emitter.entries
  refine (h.slot hk .dropEntry (p := .binding "key" _) hkey hkey label).bind fun key hk => ?_
  refine (h.slot hv .dropEntry (p := .binding "value" _) hvalue hvalue label).bind
    fun value hv => gives_ok ?_
  exact h.entries _ _ _ _ _ _ _ hp hkey hvalue hk hv

theorem tupleFrom {els : List ElementMapping}
    (hels : ∀ el ∈ els, ∀ t ∈ el.strategy, t ∈ m.strategies) (hp : Inert p.code) (label : String)
    (i : Nat) : Gives (fun vs => ∀ v ∈ vs, P v) (e.tupleFrom p label i els) := by
  induction els generalizing i with
  | nil => exact gives_ok (List.forall_mem_nil _)
  | cons el rest ih =>
      rw [List.forall_mem_cons] at hels
      have hitem : Inert (words ["item_" ++ toString i]) := inert_of_underscore (by simp)
      unfold Emitter.tupleFrom
      refine (h.slot hels.1 .standard (Place.inert_position hp i _) hitem label).bind fun v hv => ?_
      exact (ih hels.2 (i + 1)).bind fun vs hvs => gives_ok (List.forall_mem_cons.mpr ⟨hv, hvs⟩)

theorem terminal (hp : Inert p.code) : Gives P (e.terminal m p) := by
  have hslots : ∀ el ∈ m.shape.elements, ∀ t ∈ el.strategy, t ∈ m.strategies :=
    fun _ hel _ => PropertyMapping.mem_strategies_of_element hel
  unfold Emitter.terminal
  cases hshape : m.shape with
  | scalar =>
      have hown : ∀ t ∈ m.strategy, t ∈ m.strategies := fun t ht =>
        List.mem_append_left _ (Option.mem_toList.mpr ht)
      exact (h.convert hown hp _).bind fun v hv => gives_ok (h.fitted hv _)
  | collection s target el =>
      rw [hshape] at hslots
      exact (h.collection (hslots el List.mem_cons_self) hp _ _).bind fun v hv =>
        gives_ok (h.fitted hv _)
  | map target k v =>
      rw [hshape] at hslots
      exact (h.mapEntries (hslots k List.mem_cons_self)
        (hslots v (List.mem_cons_of_mem _ List.mem_cons_self)) hp _ _).bind fun w hw =>
          gives_ok (h.fitted hw _)
  | tuple els =>
      rw [hshape] at hslots
      have htuple : Gives P (e.tuple p els m.sourcePath) :=
        (h.tupleFrom hslots hp _ 0).map fun vs hvs => h.tuple vs hvs
      exact htuple.bind fun v hv => gives_ok (h.fitted hv _)

theorem along (hp : Inert p.code) (i : Nat) (hops : List Hop) : Gives P (e.along m p i hops) := by
  induction hops generalizing p i with
  | nil => exact h.terminal hp
  | cons hop rest ih =>
      unfold Emitter.along
      refine (spelledName_inert _).bind fun name hname => ?_
      have hfield := Place.inert_field hp hname hop.nullable
      split
      · exact ih hfield _
      · refine (made_inert (by simp)).bind fun binding hb => ?_
        exact (ih (p := .binding binding false) hb _).bind fun v hv => gives_ok
          (h.cases _ _ _ _ hfield hb hv (h.standsIn _ (absentHop_standsIn _ _)))

/-- **The value of a property mapping** has what goes through it. -/
theorem property : Gives P (e.property m) := by
  have hsource : Inert sourcePlace.code := rfl
  unfold Emitter.property
  split
  · exact (spelledName_inert _).bind fun name hname =>
      gives_ok (h.read _ _ (Place.inert_field hsource hname _))
  · exact h.along hsource _ _

end Carries

end Emitter

end TypeMapper

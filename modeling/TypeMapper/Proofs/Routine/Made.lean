import Mathlib.Logic.Relation
import TypeMapper.Proofs.Arena.Reachability
import TypeMapper.Routine.Projection
/-!
# Made names

Some names that stand in a module are no texts of the schema: the generator makes them, of the base
names of mappings and of the names of links. They are taken as they are, so nothing in the module
can make up for one that is no word.

* `Emitter.MakesName`: the names that are made for the module of a mapping.
-/

namespace TypeMapper.Emitter

/-- **The names that are made for the module of a mapping**: its own, those of its routines and of
the routines that it calls, and those of the values of links that may be absent, in its routine and
in the literals of the mappings that its projection writes out. -/
inductive MakesName (e : Emitter) : String → Prop where
  | module {base : String} : e.names.base? e.id = some base → MakesName e base
  | routine {base : String} : e.names.base? e.id = some base → MakesName e ("map_" ++ base)
  | many {base : String} : e.config.sequenceVariant = true → e.names.base? e.id = some base →
      MakesName e ("map_many_" ++ base)
  | projection {base : String} : e.config.expressionVariant = true →
      e.names.base? e.id = some base → MakesName e ("project_" ++ base)
  | called {c : DelegateCall} {t : MappingId} {base : String} : c ∈ e.mapping.delegates →
      c.target = some t → e.names.base? t = some base → MakesName e ("map_" ++ base)
  | value {p : PropertyMapping} {hop : Hop} {policy : NullPolicy} : p ∈ e.mapping.properties →
      hop ∈ p.source → hop.onNull = some policy → MakesName e (hop.name ++ "_value")
  | inlined {t : MappingId} {m : Mapping} {p : PropertyMapping} {hop : Hop} {policy : NullPolicy}
      {depth : Nat} : e.config.expressionVariant = true →
      Relation.ReflTransGen e.arena.Delegates e.id t → e.arena.get? t = some m →
      p ∈ m.properties → hop ∈ p.source → hop.onNull = some policy →
      MakesName e (atDepth hop.name depth)

end TypeMapper.Emitter

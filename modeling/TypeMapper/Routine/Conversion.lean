import TypeMapper.Config
import TypeMapper.Routine.Value
/-!
# Conversions

The expressions that convert one value by a strategy, and one slot of a container with its policy
for absent values.

* `Emitter`: what the routines of a mapping are written from.
* `Emitter.convert`: a value by a strategy, or a copy of it.
* `Emitter.slot`: the value of a slot, fitted to its destination.
-/

namespace TypeMapper

/-- What the routines of a mapping are written from. -/
structure Emitter where
  arena : Arena
  config : Config
  names : RoutineNames
  id : MappingId
  mapping : Mapping
  scope : Scope

namespace Emitter

/-- The emitter of a mapping of an arena. -/
def ofArena (a : Arena) (c : Config) (names : RoutineNames) (id : MappingId) (m : Mapping) :
    Emitter := ⟨a, c, names, id, m, Scope.ofArena a id⟩

/-! ## 1. Parameters and calls -/

/-- The name under which the routine takes the parameter of a helper. -/
def parameter (e : Emitter) (key : String × TypeRef) : Emit String :=
  match e.mapping.entryParameters.find? fun p => p.key == key with
  | some p => spelledName p.name
  | none => .error (.skip (.missingParameter key.1))

/-- The parameters of the routine with the spelling of their types. -/
def parameters (e : Emitter) : Emit (List (String × TypeSpelling)) :=
  e.mapping.entryParameters.mapM fun p => do
    let name ← spelledName p.name
    let type ← e.scope.type p.ty
    return (name, type)

/-- What a helper is given; one that takes absent values is given an option. -/
def subject (p : Place) (byValue acceptsNull : Bool) : Subject :=
  if acceptsNull && !p.optional then .present p byValue else .borrowed p

/-- The call of a method. -/
def callMethod (e : Emitter) (c : MethodCall) (p : Place) (byValue : Bool) : Emit Value := do
  let owner ← e.scope.path c.owner
  let name ← spelledName c.name
  let arguments ← c.arguments.mapM fun a => e.parameter (a.name, a.ty)
  return .method owner name (subject p byValue c.subject.nullable) arguments c.isAsync
    c.returns.nullable

/-- The call of a resolver. -/
def callResolver (e : Emitter) (c : ResolverCall) (p : Place) (byValue : Bool) : Emit Value := do
  let resolver ← spelledName c.instanceName
  let input ← e.scope.type c.source
  let output ← e.scope.type c.destination
  return .resolve input output resolver (subject p byValue c.source.nullable) c.isAsync
    c.destination.nullable

/-- The call of the routine of another mapping, or of the same. -/
def callRoutine (e : Emitter) (c : DelegateCall) (p : Place) : Emit Value := do
  let id ← Emit.ofOption c.target (.unboundDelegate c.key)
  let target ← Emit.ofOption (e.arena.get? id) (.unknownMapping id)
  let routine ← e.names.routine id
  let arguments ← target.entryParameters.mapM fun q => e.parameter q.key
  return .delegate id routine (decide (id = e.id)) p arguments target.isAsync

/-- The value at a place, converted by a strategy or copied. -/
def convert (e : Emitter) (s : Option Strategy) (p : Place) (byValue : Bool) : Emit Value :=
  match s with
  | none => .ok (.read p byValue)
  | some (.method c) => e.callMethod c p byValue
  | some (.resolver c) => e.callResolver c p byValue
  | some (.delegate c) => e.callRoutine c p

/-! ## 2. Slots -/

/-- The conversion of a slot can fail. -/
def isFallible (el : ElementMapping) : Bool :=
  (el.strategy.bind Strategy.delegate?).isSome || el.onNull == some .guard

/-- The conversion of a value is awaited. -/
def isAwaited (e : Emitter) : Option Strategy → Bool
  | some (.delegate c) => (c.target.map e.arena.isAsync).getD false
  | some s => s.isAsync
  | none => false

/-- What stands for an absent value of a slot; `label` is the path to the container. -/
def absentValue (e : Emitter) (policy : NullPolicy) (dropped : Value) (label : String) : Value :=
  match policy with
  | .propagate => .absent
  | .guard => .fail (.nullElement e.mapping.key label)
  | .fallback => .standard
  | .drop => dropped

/-- The value of a slot at a place; `binding` names the present value and `dropped` is what a
dropped one comes to. -/
def slot (e : Emitter) (el : ElementMapping) (p : Place) (binding : String) (dropped : Value)
    (label : String) : Emit Value :=
  match el.onNull with
  | none => do
    let v ← e.convert el.strategy p el.byValue
    return v.fitted el.destination.nullable
  | some policy => do
    let v ← e.convert el.strategy (.binding binding false) el.byValue
    return .cases p binding (v.fitted el.destination.nullable)
      (e.absentValue policy dropped label)

end Emitter

end TypeMapper

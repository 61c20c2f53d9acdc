import TypeMapper.Routine.Conversion
/-!
# The routine of a mapping

The routine takes a source and the parameters of its helpers. It refuses an absent source, builds
its resolvers, makes every property of the destination and may call a hook at the end. An absent
value is replaced, kept or refused by the policy of its link.

* `Emitter.property`: the value of a property, read along its chain.
* `Emitter.collection`, `entries`, `tuple`: the values of containers.
* `PrimaryRoutine`: the routine; `Emitter.primary` makes it and `PrimaryRoutine.code` spells it.
-/

namespace TypeMapper

namespace Emitter

/-! ## 1. Containers -/

/-- The elements of a collection; dropped ones never reach their conversion. -/
def collection (e : Emitter) (p : Place) (target : CollectionKind) (el : ElementMapping)
    (label : String) : Emit Value :=
  let flattened := el.onNull == some .drop
  let el := if flattened then { el with source := el.source.nonNull, onNull := none } else el
  let items : Items := ⟨p, flattened⟩
  if el.strategy.isNone && el.onNull.isNone then .ok (.copies items el.byValue target)
  else do
    let v ← e.slot el (.binding "element" el.source.nullable) "element" .standard label
    let gathering : Gathering :=
      if e.isAwaited el.strategy then .joined else if isFallible el then .fallible else .plain
    return .each items "element" v target gathering

/-- The entries of a map; an entry with a dropped slot is dropped. -/
def entries (e : Emitter) (p : Place) (target : MapKind) (k v : ElementMapping) (label : String) :
    Emit Value := do
  let key ← e.slot k (.binding "key" k.source.nullable) "key" .dropEntry label
  let value ← e.slot v (.binding "value" v.source.nullable) "value" .dropEntry label
  let drops := k.onNull == some .drop || v.onNull == some .drop
  let gathering : Gathering :=
    if e.isAwaited k.strategy || e.isAwaited v.strategy then .joined
    else if drops || isFallible k || isFallible v then .fallible
    else .plain
  return .entries p "key" "value" key value target gathering

/-- The elements of a tuple from a position on. -/
def tupleFrom (e : Emitter) (p : Place) (label : String) :
    Nat → List ElementMapping → Emit (List Value)
  | _, [] => .ok []
  | i, el :: rest => do
    let v ← e.slot el (.position p i el.source.nullable) ("item_" ++ toString i) .standard label
    let vs ← tupleFrom e p label (i + 1) rest
    return v :: vs

/-- The elements of a tuple. -/
def tuple (e : Emitter) (p : Place) (els : List ElementMapping) (label : String) : Emit Value :=
  (e.tupleFrom p label 0 els).map .tuple

/-! ## 2. Properties -/

/-- The value at the end of a chain. -/
def terminal (e : Emitter) (m : PropertyMapping) (p : Place) : Emit Value := do
  let v ← match m.shape with
    | .scalar => e.convert m.strategy p m.terminal.byValue
    | .collection _ target el => e.collection p target el m.sourcePath
    | .map target k v => e.entries p target k v m.sourcePath
    | .tuple els => e.tuple p els m.sourcePath
  return v.fitted m.destinationNullable

/-- What stands for an absent value of a link; `path` leads to it. -/
def absentHop (e : Emitter) (policy : NullPolicy) (path : String) : Value :=
  match policy with
  | .propagate => .absent
  | .guard => .fail (.nullProperty e.mapping.key path)
  | _ => .standard

/-- The value along the links from a position on. -/
def along (e : Emitter) (m : PropertyMapping) (base : Place) : Nat → List Hop → Emit Value
  | _, [] => e.terminal m base
  | i, hop :: rest => do
    let name ← spelledName hop.name
    let p : Place := .field base name hop.nullable
    match hop.onNull with
    | none => along e m p (i + 1) rest
    | some policy => do
      let binding ← made (hop.name ++ "_value")
      let v ← along e m (.binding binding false) (i + 1) rest
      return .cases p binding v (e.absentHop policy (m.sourcePathTo i))

/-- The binding of the source. -/
def sourcePlace : Place := .binding "source" false

/-- A property of the source that is copied as it is, absent or not. -/
def isDirectCopy (m : PropertyMapping) : Bool :=
  !m.isNested && m.strategy.isNone && m.shape == .scalar && m.sourceNullable
    && m.destinationNullable && m.terminal.ty == m.destination.ty

/-- The value of a property. -/
def property (e : Emitter) (m : PropertyMapping) : Emit Value :=
  if isDirectCopy m then do
    let name ← spelledName m.terminal.name
    return .read (.field sourcePlace name m.sourceNullable) m.terminal.byValue
  else e.along m sourcePlace 0 m.source

end Emitter

/-! ## 3. Routines -/

/-- A resolver that is built before the destination. -/
structure ResolverBinding where
  name : String
  type : PathSpelling
  arguments : List String
  deriving Inhabited

/-- The routine of a mapping. -/
structure PrimaryRoutine where
  name : String
  key : MappingKey
  source : PathSpelling
  destination : PathSpelling
  sourceByValue : Bool
  parameters : List (String × TypeSpelling)
  resolvers : List ResolverBinding
  fields : List (String × Value)
  callsHook : Bool
  isAsync : Bool
  deriving Inhabited

/-- The resolver bindings of a routine. -/
def Emitter.resolverBinding (e : Emitter) (r : ResolverInstance) : Emit ResolverBinding := do
  let name ← spelledName r.ident
  let type ← e.scope.path r.path
  let arguments ← r.arguments.mapM fun a => e.parameter a.key
  return ⟨name, type, arguments⟩

/-- The field of a property. -/
def Emitter.field (e : Emitter) (m : PropertyMapping) : Emit (String × Value) := do
  let name ← spelledName m.destination.name
  let v ← e.property m
  return (name, v)

/-- The routine of a mapping. -/
def Emitter.primary (e : Emitter) : Emit PrimaryRoutine := do
  let name ← e.names.routine e.id
  let source ← e.scope.path e.mapping.source
  let destination ← e.scope.path e.mapping.destination
  let parameters ← e.parameters
  let resolvers ← e.mapping.resolvers.mapM e.resolverBinding
  let fields ← e.mapping.properties.mapM e.field
  return ⟨name, e.mapping.key, source, destination, e.mapping.sourceByValue, parameters, resolvers,
    fields, e.config.afterHook, e.mapping.isAsync⟩

namespace PrimaryRoutine

/-- The destination as it is made. -/
def literal (r : PrimaryRoutine) : Value := .construct r.destination r.fields false

/-- The paths that a routine names. -/
def paths (r : PrimaryRoutine) : List PathSpelling :=
  r.source :: r.destination :: (r.parameters.flatMap fun p => p.2.paths)
    ++ r.resolvers.map ResolverBinding.type ++ r.literal.paths

/-- The tokens of a resolver binding. -/
def resolverCode (b : ResolverBinding) : Code :=
  words ["let", b.name] ++ op "=" ++ op "&" ++ b.type.code ++ op "::" ++ words ["new"]
    ++ parens (separated (b.arguments.map fun a => words [a] ++ Value.call "clone" []))
    ++ op ";"

/-- The lifetime of references that a routine is given. -/
def sharedLifetime : Code := lifetime "a"

/-- The parameters of the source and what is done about an absent one. -/
def sourceCode (r : PrimaryRoutine) : Code × Code × Code :=
  if r.sourceByValue then ([], words ["source"] ++ op ":" ++ op "&" ++ r.source.code, [])
  else
    (angles sharedLifetime,
      words ["source"] ++ op ":" ++ words ["impl", "Into"] ++ op "<" ++ words ["Option"] ++ op "<"
        ++ op "&" ++ sharedLifetime ++ r.source.code ++ op ">>",
      words ["let", "Some"] ++ parens (words ["source"]) ++ op "=" ++ words ["source"]
        ++ Value.call "into" [] ++ words ["else"]
        ++ braces (Value.returnError (Value.failureCode (.nullSource r.key)) ++ op ";") ++ op ";")

/-- The end of a routine: the destination, after the hook if it is called. -/
def endCode (r : PrimaryRoutine) : Code :=
  if r.callsHook then
    words ["let", "mut", "destination"] ++ op "=" ++ r.literal.code ++ op ";"
      ++ Value.runtime ["AfterMap"] ++ op "::" ++ angles r.source.code ++ op "::"
      ++ words ["after_map"]
      ++ parens (op "&" ++ words ["mut", "destination"] ++ op "," ++ words ["source"]) ++ op ";"
      ++ words ["Ok"] ++ parens (words ["destination"])
  else words ["Ok"] ++ parens r.literal.code

/-- The result of a routine. -/
def resultCode (r : PrimaryRoutine) : Code :=
  words ["Result"] ++ angles (r.destination.code ++ op "," ++ Value.errorCode)

/-- The tokens of a routine. -/
def code (r : PrimaryRoutine) : Code :=
  let (generics, input, guard) := r.sourceCode
  let parameters := r.parameters.map fun p => words [p.1] ++ op ":" ++ op "&" ++ p.2.code
  docLine ("Map `" ++ r.key.source ++ "` to `" ++ r.key.destination ++ "`.")
    ++ words (if r.isAsync then ["pub", "async", "fn", r.name] else ["pub", "fn", r.name])
    ++ generics ++ parens (terminated (input :: parameters)) ++ op "->" ++ r.resultCode
    ++ braces (guard ++ r.resolvers.flatMap resolverCode ++ r.endCode)

end PrimaryRoutine

end TypeMapper

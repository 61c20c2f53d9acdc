import TypeMapper.Config
import TypeMapper.Mapping.Basic
import TypeMapper.Matching
/-!
# Construction

The pairs of a matching become property mappings. The first of these that applies decides how a
value is converted: the resolver, the method or the mapper that a directive names, the slots of a
collection, a map or a tuple, a declared mapping between two objects, a copy of the same shape.
Whatever does not fit is reported, and the property is left out.

* `Attempt`: a value, or the reports on why there is none.
* `Helpers`: the resolvers and parameters that the properties so far need.
* `Builder.property`: the property mapping of a pair; `Mapping.build`: a whole mapping.
-/

namespace TypeMapper

/-! ## 1. Attempts -/

/-- A value, or the reports on why there is none. -/
abbrev Attempt (α : Type) := Except (List Diagnostic) α

namespace Attempt

/-- Fail with one report. -/
def fail {α : Type} (code : DiagnosticCode) (place : Location) (message : String) : Attempt α :=
  .error [Diagnostic.report code place message]

/-- Two values; if both are missing, the reports on both. -/
def both {α β : Type} : Attempt α → Attempt β → Attempt (α × β)
  | .ok a, .ok b => .ok (a, b)
  | .error ds, .ok _ => .error ds
  | .ok _, .error es => .error es
  | .error ds, .error es => .error (ds ++ es)

/-- All values of a list, or the reports on all that are missing. -/
def all {α : Type} : List (Attempt α) → Attempt (List α)
  | [] => .ok []
  | x :: rest => (both x (all rest)).map fun p => p.1 :: p.2

/-- The reports of an attempt. -/
def reports {α : Type} : Attempt α → List Diagnostic
  | .ok _ => []
  | .error ds => ds

end Attempt

/-! ## 2. Helpers -/

/-- The resolvers that a routine builds and the parameters that its helpers need. -/
structure Helpers where
  resolvers : List ResolverInstance
  parameters : List EntryParameter
  deriving DecidableEq, Repr, Inhabited

namespace Helpers

/-- No helper at all. -/
def none : Helpers := ⟨[], []⟩

/-- Need one more parameter, unless it is known. -/
def addParameter (h : Helpers) (p : EntryParameter) : Helpers :=
  if p.isIn h.parameters then h else { h with parameters := h.parameters ++ [p] }

/-- Need more parameters. -/
def addParameters (h : Helpers) (ps : List EntryParameter) : Helpers := ps.foldl addParameter h

/-- The first of `base`, `base_2`, `base_3`, … that is not taken, from the `n`-th on. -/
def freshFrom (taken : List String) (base : String) : Nat → Nat → String
  | 0, n => base ++ "_" ++ toString n
  | fuel + 1, n =>
    if taken.contains (base ++ "_" ++ toString n) then freshFrom taken base fuel (n + 1)
    else base ++ "_" ++ toString n

/-- A name that no resolver instance has. -/
def freshIdent (h : Helpers) (base : String) : String :=
  let taken := h.resolvers.map ResolverInstance.ident
  if taken.contains base then freshFrom taken base taken.length 2 else base

/-- The parameters that a resolver's constructor takes. -/
def constructorParameters (r : Resolver) : List Parameter :=
  r.parameters.filter fun p => !p.hasDefault

/-- The instance of a resolver with the same constructor, if there is one. -/
def instance? (h : Helpers) (r : Resolver) : Option ResolverInstance :=
  h.resolvers.find? fun i =>
    i.path == r.path
      && i.arguments.map EntryParameter.ty == (constructorParameters r).map Parameter.ty

/-- A new instance of a resolver; its parameters carry its name. -/
def newInstance (h : Helpers) (r : Resolver) : ResolverInstance :=
  let ident := h.freshIdent (TypePath.snakeIdent r.path)
  { ident := ident
    path := r.path
    arguments := (constructorParameters r).map fun p =>
      EntryParameter.ofLocal (ident ++ "_" ++ p.name) p.ty
    isAsync := r.isAsync }

/-- The call of a resolver through the instance of a name. -/
def callOf (r : Resolver) (ident : String) : ResolverCall :=
  ⟨ident, r.path, r.source, r.destination, r.isAsync⟩

/-- Call a resolver through its instance, which is made if there is none. -/
def resolver (h : Helpers) (r : Resolver) : ResolverCall × Helpers :=
  match h.instance? r with
  | some i => (callOf r i.ident, h)
  | .none =>
    let i := h.newInstance r
    let h := h.addParameters i.arguments
    (callOf r i.ident, { h with resolvers := h.resolvers ++ [i] })

end Helpers

/-! ## 3. Context -/

/-- What every mapping of a run is built from. -/
structure BuildContext where
  schema : Schema
  config : Config
  /-- The declared pairs of types. -/
  declared : List MappingKey

namespace BuildContext

/-- Two object types with a declared mapping between them. -/
def declaredPair? (c : BuildContext) (source destination : TypeRef) : Option MappingKey :=
  match source.objectPath?, destination.objectPath? with
  | some s, some d => if c.declared.contains ⟨s, d⟩ then some ⟨s, d⟩ else none
  | _, _ => none

end BuildContext

/-- The context of one mapping: its pair of types and its id. -/
structure Builder extends BuildContext where
  key : MappingKey
  own : MappingId

/-- The context of one property: the place of its reports and its directives. -/
structure PropertyBuilder extends Builder where
  place : Location
  directives : PropertyDirectives

/-- Where a value stands in a container. -/
inductive Slot where
  | collection
  | map
  | tuple
  deriving DecidableEq, Repr

/-- How a property is going to be filled. -/
inductive Plan where
  | copy
  | strategy (s : Strategy)
  | shape (s : Shape)
  deriving DecidableEq, Repr

/-! ## 4. Slots -/

/-- Both types are collections, or both are maps. -/
def perElement (source destination : TypeRef) : Bool :=
  (source.isCollection && destination.isCollection) || (source.isMap && destination.isMap)

/-- The types have slots that can be mapped one by one. -/
def isShaped : TypeRef → TypeRef → Bool
  | .tuple as _, .tuple bs _ => as.length == bs.length
  | s, d => perElement s d

/-- The types that an explicit helper converts: of elements and map values, unless the whole
container is asked for. -/
def helperSlot (whole : Bool) (source destination : TypeRef) : TypeRef × TypeRef :=
  if whole then (source, destination)
  else
    match source, destination with
    | .collection _ a _, .collection _ b _ => (a, b)
    | .map _ _ a _, .map _ _ b _ => (a, b)
    | _, _ => (source, destination)

namespace Builder

/-- Delegate to the mapping of a key; a mapping that delegates to itself is its own target. -/
def delegate (b : Builder) (key : MappingKey) : Strategy :=
  .delegate ⟨key, if key = b.key then some b.own else none⟩

end Builder

namespace PropertyBuilder

/-- Fail with one report on the property. -/
def fail {α : Type} (b : PropertyBuilder) (code : DiagnosticCode) (message : String) : Attempt α :=
  Attempt.fail code b.place message

/-- The result of a strategy fits its destination. -/
def checkOutput (b : PropertyBuilder) (s : Strategy) (destination : TypeRef) : Attempt Unit :=
  match s.output? with
  | none => .ok ()
  | some out =>
    if !out.sameShape destination then
      b.fail .unresolvableProperty
        (s.kind ++ " returns '" ++ out.text ++ "' but the destination is '" ++ destination.text
          ++ "'")
    else if out.nullable && !destination.nullable && !b.directives.ignoreNull then
      b.fail .incompatibleStrategyNullability
        (s.kind ++ " may return null for non-nullable '" ++ destination.text ++ "'")
    else .ok ()

/-- The strategy of a slot without one of its own: a declared mapping, or none for a copy. -/
def slotStrategy (b : PropertyBuilder) (source destination : TypeRef) :
    Attempt (Option Strategy) :=
  match b.declaredPair? source destination with
  | some key => .ok (some (b.delegate key))
  | none =>
    if source.sameShape destination then .ok none
    else b.fail .unresolvableProperty
      ("no element conversion from '" ++ source.text ++ "' to '" ++ destination.text ++ "'")

/-- The policy for an absent value in a slot whose destination is always there. -/
def slotPolicy (b : PropertyBuilder) (slot : Slot) (source destination : TypeRef) :
    Attempt NullPolicy :=
  match slot with
  | .tuple =>
    if b.directives.ignoreNull then .ok .fallback
    else if b.config.throwOnNullElement then .ok .guard
    else b.fail .nullabilityMismatch
      ("nullable tuple element '" ++ source.text ++ "' maps to non-nullable '"
        ++ destination.text ++ "'")
  | _ =>
    if b.directives.ignoreNull || !b.config.throwOnNullElement then .ok .drop else .ok .guard

/-- The policy of a slot: none is needed if no value is absent or the strategy takes absent ones. -/
def slotPolicy? (b : PropertyBuilder) (slot : Slot) (strategy : Option Strategy)
    (source destination : TypeRef) : Attempt (Option NullPolicy) :=
  if !source.nullable || (strategy.map Strategy.acceptsNull).getD false then .ok none
  else if destination.nullable then .ok (some .propagate)
  else (b.slotPolicy slot source destination).map some

/-- The mapping of a slot, by the given strategy if there is one. -/
def element (b : PropertyBuilder) (slot : Slot) (given : Option Strategy)
    (source destination : TypeRef) : Attempt ElementMapping := do
  let strategy ← match given with
    | some s => pure (some s)
    | none => b.slotStrategy source destination
  match strategy with
  | some s => b.checkOutput s destination
  | none => pure ()
  let policy ← b.slotPolicy? slot strategy source destination
  return ⟨source, destination, b.schema.isByValue source, strategy, policy⟩

/-- Map a container slot by slot; a given strategy is for elements and map values. -/
def shape (b : PropertyBuilder) (given : Option Strategy) (source destination : TypeRef) :
    Attempt Shape :=
  match source, destination with
  | .collection from_ a _, .collection to_ b' _ =>
    (b.element .collection given a b').map fun e => .collection from_ to_ e
  | .map _ k v _, .map to_ k' v' _ =>
    (Attempt.both (b.element .map none k k') (b.element .map given v v')).map fun p =>
      .map to_ p.1 p.2
  | .tuple as _, .tuple bs _ =>
    if as.length = bs.length then
      (Attempt.all (List.zipWith (b.element .tuple none) as bs)).map .tuple
    else b.fail .unresolvableProperty (perElementMessage source destination)
  | _, _ => b.fail .unresolvableProperty (perElementMessage source destination)
where
  /-- The wording of a strategy for elements where there are none. -/
  perElementMessage (source destination : TypeRef) : String :=
    "cannot apply a per-element conversion from '" ++ source.text ++ "' to '" ++ destination.text
      ++ "'"

/-! ## 5. Plans -/

/-- The plan for a property that no directive gives a strategy. -/
def structural (b : PropertyBuilder) (source destination : TypeRef) : Attempt Plan :=
  if isShaped source destination then (b.shape none source destination).map .shape
  else
    match b.declaredPair? source destination with
    | some key => .ok (.strategy (b.delegate key))
    | none =>
      if source.sameShape destination then .ok .copy
      else b.fail .unresolvableProperty
        ("no conversion from '" ++ source.text ++ "' to '" ++ destination.text ++ "'")

/-- The methods of a name on the source and then on the destination type. -/
def methodCandidates (b : PropertyBuilder) (name : String) : List (TypeDecl × Method) :=
  b.schema.methodsNamed b.key.source name
    ++ if b.key.destination = b.key.source then [] else b.schema.methodsNamed b.key.destination name

/-- A method takes a subject of the shape of a type. -/
def takes (m : Method) (subject : TypeRef) : Bool :=
  match m.subject? with
  | some p => p.ty.sameShape subject
  | none => false

/-- The methods that take the subject; of several, those that also return the wanted shape. -/
def matchingMethods (candidates : List (TypeDecl × Method)) (subject returns : TypeRef) :
    List (TypeDecl × Method) :=
  let bySubject := candidates.filter fun c => takes c.2 subject
  if 1 < bySubject.length then bySubject.filter fun c => c.2.returns.sameShape returns
  else bySubject

/-- The call of a method of a type. -/
def methodCall (owner : TypeDecl) (m : Method) (subject : TypeRef) : MethodCall where
  name := m.name
  owner := owner.path
  subject := (m.subject?.map Parameter.ty).getD subject
  returns := m.returns
  arguments := m.extras
  isAsync := m.isAsync

/-- The only method that fits; its further parameters are needed from then on. -/
def findMethod (b : PropertyBuilder) (h : Helpers) (name : String) (subject returns : TypeRef) :
    Attempt Strategy × Helpers :=
  let candidates := b.methodCandidates name
  if candidates.isEmpty then
    (b.fail .methodNotFound ("no method '" ++ name ++ "' on '" ++ b.key.source ++ "' or '"
      ++ b.key.destination ++ "'"), h)
  else
    match matchingMethods candidates subject returns with
    | [] => (b.fail .methodNotFound
        ("no overload of '" ++ name ++ "' accepts '" ++ subject.text ++ "'"), h)
    | [(owner, m)] =>
      (.ok (.method (methodCall owner m subject)),
        h.addParameters (m.extras.map fun p => EntryParameter.ofLocal p.name p.ty))
    | several =>
      (b.fail .ambiguousMethodOverload (toString several.length ++ " overloads of '" ++ name
        ++ "' match '" ++ subject.text ++ "' -> '" ++ returns.text ++ "'"), h)

/-- What a conversion by a helper is called in messages. -/
def helperText? : Conversion → Option String
  | .resolver path => some ("resolver '" ++ path ++ "'")
  | .method name => some ("method '" ++ name ++ "'")
  | .mapper .. => none

/-- A helper does not stand in for a declared mapping. -/
def checkHelper (b : PropertyBuilder) (c : Conversion) (source destination : TypeRef) :
    Attempt Unit :=
  match helperText? c with
  | none => .ok ()
  | some helper =>
    let slot := helperSlot b.directives.completeCollection source destination
    match b.declaredPair? slot.1 slot.2 with
    | some key => b.fail .conflictingStrategy
        (helper ++ " conflicts with the declared mapping " ++ key.text)
    | none => .ok ()

/-- The strategy that a directive names. -/
def explicit (b : PropertyBuilder) (h : Helpers) (c : Conversion) (source destination : TypeRef) :
    Attempt Strategy × Helpers :=
  match c with
  | .resolver path =>
    match b.schema.resolver? path with
    | some r => let (call, h) := h.resolver r; (.ok (.resolver call), h)
    | none =>
      (b.fail .unresolvedDirectiveType ("resolver '" ++ path ++ "' is not in the schema"), h)
  | .method name =>
    let slot := helperSlot b.directives.completeCollection source destination
    b.findMethod h name slot.1 slot.2
  | .mapper s d =>
    match [s, d].find? fun p => !b.schema.hasType p with
    | some p =>
      (b.fail .unresolvedDirectiveType ("mapper type '" ++ p ++ "' is not in the schema"), h)
    | none => (.ok (b.delegate ⟨s, d⟩), h)

/-- Put a strategy on the elements of a container or on the whole value. -/
def applyStrategy (b : PropertyBuilder) (s : Strategy) (source destination : TypeRef) :
    Attempt Plan :=
  if !b.directives.completeCollection && perElement source destination then
    (b.shape (some s) source destination).map .shape
  else do
    b.checkOutput s destination
    return .strategy s

/-- The plan for a property, and the helpers that are needed from then on. -/
def plan (b : PropertyBuilder) (h : Helpers) (source destination : TypeRef) :
    Attempt Plan × Helpers :=
  match b.directives.conversion with
  | none => (b.structural source destination, h)
  | some c =>
    match b.checkHelper c source destination with
    | .error ds => (.error ds, h)
    | .ok () =>
      match b.explicit h c source destination with
      | (.error ds, h) => (.error ds, h)
      | (.ok s, h) => (b.applyStrategy s source destination, h)

/-! ## 6. Policies along the chain -/

/-- The plan takes an absent value at the end of the chain. -/
def Plan.acceptsNull : Plan → Bool
  | .strategy s => s.acceptsNull
  | _ => false

/-- The plan turns an absent container into an empty one. -/
def Plan.absorbsNull : Plan → Bool
  | .shape s => s.absorbsNull
  | _ => false

/-- The policy of a link, of which `before` are the names up to and with it. -/
def hopPolicy (b : PropertyBuilder) (plan : Plan) (destination : PropertyEnd) (terminal : Bool)
    (before : List String) (hop : Hop) : Attempt (Option NullPolicy) :=
  if !hop.nullable || (terminal && Plan.acceptsNull plan) then .ok none
  else if destination.nullable then .ok (some .propagate)
  else if terminal && Plan.absorbsNull plan then .ok (some .fallback)
  else if b.directives.ignoreNull then .ok (some .fallback)
  else if !terminal && b.config.throwOnNullProperty then .ok (some .guard)
  else
    let path := ".".intercalate before
    if terminal && (plan matches .strategy _) then
      b.fail .incompatibleStrategyNullability
        ("nullable source '" ++ path ++ "' is passed to a strategy that requires a value")
    else
      b.fail .nullabilityMismatch
        ("nullable source '" ++ path ++ "' maps to non-nullable '" ++ destination.name ++ "'")

/-- The links of a chain with their policies; `before` are the names of the links before. -/
def hopPolicies (b : PropertyBuilder) (plan : Plan) (destination : PropertyEnd) :
    List String → List Hop → Attempt (List Hop)
  | _, [] => .ok []
  | before, hop :: rest =>
    let names := before ++ [hop.name]
    let policy := b.hopPolicy plan destination rest.isEmpty names hop
    (Attempt.both policy (hopPolicies b plan destination names rest)).map fun p =>
      { hop with onNull := p.1 } :: p.2

end PropertyBuilder

/-! ## 7. Properties -/

/-- The mapping of a property along a chain by a plan. -/
def Plan.toMapping (plan : Plan) (hops : List Hop) (destination : PropertyEnd)
    (d : PropertyDirectives) : PropertyMapping :=
  let parts : Option Strategy × Shape := match plan with
    | .copy => (none, .scalar)
    | .strategy s => (some s, .scalar)
    | .shape s => (none, s)
  ⟨hops, destination, parts.1, parts.2, d.ignoreNull, d.maxRecursionDepth⟩

namespace Builder

/-- The mapping of a pair, and the helpers that are needed from then on. -/
def property (b : Builder) (h : Helpers) (m : PropertyMatch) : Attempt PropertyMapping × Helpers :=
  let hops := m.source.map Hop.ofProperty
  let destination := PropertyEnd.ofProperty m.destination
  let b : PropertyBuilder :=
    { b with
      place := Location.ofProperty b.key.destination destination.name
      directives := m.directives }
  match hops.getLast? with
  | none => (.error [], h)
  | some last =>
    match b.plan h last.ty destination.ty with
    | (.error ds, h) => (.error ds, h)
    | (.ok plan, h) =>
      ((b.hopPolicies plan destination [] hops).map fun hops =>
        plan.toMapping hops destination m.directives, h)

/-- The mappings of pairs in order, the helpers they need, and the reports. -/
def properties (b : Builder) (h : Helpers) :
    List PropertyMatch → List PropertyMapping × Helpers × List Diagnostic
  | [] => ([], h, [])
  | m :: rest =>
    let (attempt, h) := b.property h m
    let (ps, h, ds) := properties b h rest
    (attempt.toOption.toList ++ ps, h, attempt.reports ++ ds)

end Builder

/-! ## 8. Mappings -/

/-- Why a mapping cannot be built. -/
inductive BuildError where
  | unknownType (path : String)
  deriving DecidableEq, Repr

/-- The wording of an error. -/
def BuildError.message : BuildError → String
  | .unknownType path => "type '" ++ path ++ "' is not in the schema"

/-- The report on a destination that cannot be made without arguments. -/
def constructorReports (t : TypeDecl) : List Diagnostic :=
  if t.constructible then []
  else [Diagnostic.report .noParameterlessConstructor (Location.ofType t.path)
    ("'" ++ t.path ++ "' has no public parameterless construction path")]

/-- A declared mapping with everything that can be built of it alone. -/
def Mapping.buildFrom (c : BuildContext) (id : MappingId) (m : Mapping)
    (source destination : TypeDecl) : Mapping :=
  let matched := matchProperties c.schema m.key m.index
  let b : Builder := { c with key := m.key, own := id }
  let (properties, helpers, reports) := b.properties Helpers.none matched.pairs
  { m with
    sourceByValue := source.byValue
    maxRecursionDepth := matched.typeDirectives.maxRecursionDepth.getD c.config.maxRecursionDepth
    properties := m.properties ++ properties
    resolvers := helpers.resolvers
    localParameters := helpers.parameters
    isAsync := (m.properties ++ properties).any fun p => p.strategies.any Strategy.isAsync
    leftovers := matched.leftovers
    unclaimed := matched.unclaimed
    diagnostics := m.diagnostics ++ constructorReports destination ++ matched.reports ++ reports }

/-- Build a declared mapping, whose types must be known. -/
def Mapping.build (c : BuildContext) (id : MappingId) (m : Mapping) : Except BuildError Mapping :=
  match c.schema.type? m.source with
  | none => .error (.unknownType m.source)
  | some source =>
    match c.schema.type? m.destination with
    | none => .error (.unknownType m.destination)
    | some destination => .ok (m.buildFrom c id source destination)

end TypeMapper

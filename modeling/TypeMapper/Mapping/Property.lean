import TypeMapper.Mapping.Strategy
/-!
# Property mappings

How one destination property is filled: from a chain of source properties, either by one strategy,
or slot by slot if both ends are containers, or by a copy.

* `NullPolicy`: what happens to a value that is absent.
* `Shape`: a container with a mapping for each of its slots.
* `PropertyMapping.start?`, `withStrategy`, `withShape`, `withHopPolicy`: the steps that make a
  mapping; there is never a second strategy, nor a strategy beside a container.
-/

namespace TypeMapper

/-! ## 1. Chains and ends -/

/-- What the generated code does with an absent value. -/
inductive NullPolicy where
  /-- Put the default in its place. -/
  | fallback
  /-- Drop the element. -/
  | drop
  /-- Fail. -/
  | guard
  /-- Keep it absent. -/
  | propagate
  deriving DecidableEq, Repr, Inhabited

namespace NullPolicy

/-- The name of a policy. -/
def name : NullPolicy → String
  | .fallback => "Default"
  | .drop => "Filter"
  | .guard => "Guard"
  | .propagate => "Propagate"

/-- The policy with a name. -/
def ofName? (s : String) : Option NullPolicy :=
  [fallback, drop, guard, propagate].find? fun p => p.name == s

end NullPolicy

/-- One link of a chain of reads. -/
structure Hop where
  name : String
  ty : TypeRef
  byValue : Bool
  onNull : Option NullPolicy
  deriving DecidableEq, Repr, Inhabited

namespace Hop

/-- The link that reads a property. -/
def ofProperty (p : Property) : Hop := ⟨p.name, p.ty, p.byValue, none⟩

/-- The value that is read may be absent. -/
def nullable (h : Hop) : Bool := h.ty.nullable

end Hop

/-- The destination of a property mapping. -/
structure PropertyEnd where
  name : String
  ty : TypeRef
  byValue : Bool
  deriving DecidableEq, Repr, Inhabited

namespace PropertyEnd

/-- A property as destination. -/
def ofProperty (p : Property) : PropertyEnd := ⟨p.name, p.ty, p.byValue⟩

/-- The destination may be absent. -/
def nullable (e : PropertyEnd) : Bool := e.ty.nullable

end PropertyEnd

/-- The names of links between dots. -/
def pathText (hops : List Hop) : String := ".".intercalate (hops.map Hop.name)

/-! ## 2. Slots and shapes -/

/-- How one slot of a container is filled. -/
structure ElementMapping where
  source : TypeRef
  destination : TypeRef
  byValue : Bool
  strategy : Option Strategy
  onNull : Option NullPolicy
  deriving DecidableEq, Repr, Inhabited

/-- A strategy beside another strategy, or beside a container. -/
structure StrategyConflict where
  existing : String
  attempted : String
  deriving DecidableEq, Repr

/-- The wording of a conflict. -/
def StrategyConflict.message (c : StrategyConflict) : String :=
  "cannot combine a " ++ c.attempted ++ " strategy with an existing " ++ c.existing ++ " strategy"

/-- Give a slot its strategy, which it must not have yet. -/
def ElementMapping.withStrategy (e : ElementMapping) (s : Strategy) :
    Except StrategyConflict ElementMapping :=
  match e.strategy with
  | some old => .error ⟨old.kind, s.kind⟩
  | none => .ok { e with strategy := some s }

/-- A property as one value or as a container whose slots are mapped one by one. -/
inductive Shape where
  | scalar
  | collection (source destination : CollectionKind) (element : ElementMapping)
  | map (destination : MapKind) (key value : ElementMapping)
  | tuple (elements : List ElementMapping)
  deriving DecidableEq, Repr, Inhabited

namespace Shape

/-- The slots in order. -/
def elements : Shape → List ElementMapping
  | .scalar => []
  | .collection _ _ e => [e]
  | .map _ k v => [k, v]
  | .tuple es => es

/-- Change every slot. -/
def mapElements (f : ElementMapping → ElementMapping) : Shape → Shape
  | .scalar => .scalar
  | .collection s d e => .collection s d (f e)
  | .map d k v => .map d (f k) (f v)
  | .tuple es => .tuple (es.map f)

/-- An absent container becomes an empty one. -/
def absorbsNull : Shape → Bool
  | .collection .. => true
  | .map .. => true
  | _ => false

@[simp] theorem elements_mapElements (f : ElementMapping → ElementMapping) (s : Shape) :
    (s.mapElements f).elements = s.elements.map f := by cases s <;> rfl

end Shape

/-! ## 3. Property mappings -/

/-- How a destination property is filled. -/
structure PropertyMapping where
  source : List Hop
  destination : PropertyEnd
  strategy : Option Strategy
  shape : Shape
  ignoreNull : Bool
  maxRecursionDepth : Option UInt32
  deriving DecidableEq, Repr, Inhabited

namespace PropertyMapping

/-- The chain of reads as a dotted path. -/
def sourcePath (p : PropertyMapping) : String := pathText p.source

/-- The dotted path up to and with the link at a position. -/
def sourcePathTo (p : PropertyMapping) (i : Nat) : String := pathText (p.source.take (i + 1))

/-- The last link of the chain. -/
def terminal (p : PropertyMapping) : Hop := p.source.getLast?.getD default

/-- The chain has more than one link. -/
def isNested (p : PropertyMapping) : Bool := decide (1 < p.source.length)

/-- The value that is read may be absent. -/
def sourceNullable (p : PropertyMapping) : Bool := p.terminal.nullable

/-- The destination may be absent. -/
def destinationNullable (p : PropertyMapping) : Bool := p.destination.nullable

/-- The strategies, that of the property before those of its slots. -/
def strategies (p : PropertyMapping) : List Strategy :=
  p.strategy.toList ++ p.shape.elements.filterMap ElementMapping.strategy

/-- The delegate calls in the order of the strategies. -/
def delegates (p : PropertyMapping) : List DelegateCall := p.strategies.filterMap Strategy.delegate?

/-- Some strategy calls a method or a resolver. -/
def needsHelper (p : PropertyMapping) : Bool := p.strategies.any Strategy.needsHelper

/-- Change every strategy. -/
def mapStrategies (f : Strategy → Strategy) (p : PropertyMapping) : PropertyMapping :=
  { p with
    strategy := p.strategy.map f
    shape := p.shape.mapElements fun e => { e with strategy := e.strategy.map f } }

/-- Change every delegate call. -/
def mapDelegates (f : DelegateCall → DelegateCall) (p : PropertyMapping) : PropertyMapping :=
  p.mapStrategies (Strategy.mapDelegate f)

theorem strategies_mapStrategies (f : Strategy → Strategy) (p : PropertyMapping) :
    (p.mapStrategies f).strategies = p.strategies.map f := by
  have h : ∀ o : Option Strategy, (o.map f).toList = o.toList.map f := by
    intro o; cases o <;> rfl
  rw [strategies, mapStrategies, h, Shape.elements_mapElements, List.filterMap_map, strategies,
    List.map_append, List.map_filterMap]
  rfl

/-- The strategies of the slots are among those of the property. -/
theorem mem_strategies_of_element {p : PropertyMapping} {e : ElementMapping} {s : Strategy}
    (he : e ∈ p.shape.elements) (hs : s ∈ e.strategy) : s ∈ p.strategies :=
  List.mem_append_right _ (List.mem_filterMap.mpr ⟨e, he, hs⟩)

/-- The delegate calls of a property whose delegate calls are changed. -/
theorem delegates_mapDelegates (f : DelegateCall → DelegateCall) (p : PropertyMapping) :
    (p.mapDelegates f).delegates = p.delegates.map f := by
  have h : Strategy.delegate? ∘ Strategy.mapDelegate f = fun s => s.delegate?.map f :=
    funext (Strategy.delegate?_mapDelegate f)
  rw [delegates, mapDelegates, strategies_mapStrategies, List.filterMap_map, h, delegates,
    List.map_filterMap]

/-! ## 4. Making a property mapping -/

/-- A copy along a chain, which must have a link. -/
def start? (source : List Hop) (destination : PropertyEnd) : Option PropertyMapping :=
  if source.isEmpty then none else some ⟨source, destination, none, .scalar, false, none⟩

/-- Convert the whole value: there is no strategy yet and no container. -/
def withStrategy (p : PropertyMapping) (s : Strategy) : Except StrategyConflict PropertyMapping :=
  match p.strategy with
  | some old => .error ⟨old.kind, s.kind⟩
  | none =>
    if p.shape = .scalar then .ok { p with strategy := some s } else .error ⟨"shape", s.kind⟩

/-- Map slot by slot: there is no strategy. -/
def withShape (p : PropertyMapping) (s : Shape) : Except StrategyConflict PropertyMapping :=
  match p.strategy with
  | some old => .error ⟨old.kind, "shape"⟩
  | none => .ok { p with shape := s }

/-- Accept absent values for a destination that is always there. -/
def withIgnoreNull (p : PropertyMapping) (b : Bool) : PropertyMapping := { p with ignoreNull := b }

/-- Bound the depth of unrolling below the property. -/
def withMaxRecursionDepth (p : PropertyMapping) (d : Option UInt32) : PropertyMapping :=
  { p with maxRecursionDepth := d }

/-- Give the link at a position its policy, if its value may be absent. -/
def withHopPolicy (p : PropertyMapping) (i : Nat) (policy : NullPolicy) : PropertyMapping :=
  { p with source := p.source.modify i fun h =>
      if h.nullable then { h with onNull := some policy } else h }

end PropertyMapping

end TypeMapper

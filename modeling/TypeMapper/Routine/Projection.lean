import TypeMapper.Routine.Primary
/-!
# The projection of a mapping

The projection makes the destination in one expression and calls no helper. Absent values become
defaults or are dropped, the literals of other mappings are written out in place down to a bounded
depth, and a property that needs a helper is left to the default.

* `Inliner.along`: the value of a property, read along its chain.
* `Emitter.literal`: the destination of a mapping at a depth, in the literal of another or at the
  top.
* `Projection`: the routine; `Emitter.projection` makes it and `Projection.code` spells it.
-/

namespace TypeMapper

/-! ## 1. Depth -/

namespace Mapping

/-- The depth from which on a property is not written out. -/
def depthLimit (m : Mapping) (p : PropertyMapping) : Nat :=
  (p.maxRecursionDepth.getD m.maxRecursionDepth).toNat

/-- The property delegates and lies too deep to be written out. -/
def cuts (m : Mapping) (depth : Nat) (p : PropertyMapping) : Bool :=
  !p.delegates.isEmpty && decide (m.depthLimit p ≤ depth)

/-- The literal of a mapping at a depth reads its input. -/
def readsInput (m : Mapping) (depth : Nat) : Bool :=
  m.properties.any fun p => !p.needsHelper && !m.cuts depth p

end Mapping

/-- The greatest depth that a mapping of an arena allows. -/
def Arena.deepest (a : Arena) : Nat :=
  a.mappings.foldl (fun d m => max d m.maxRecursionDepth.toNat) 0

/-- The name of an input; one that is not read has an underscore in front. -/
def inputName (name : String) (used : Bool) : String := if used then name else "_" ++ name

/-- A name at a depth. -/
def atDepth (name : String) (depth : Nat) : String := name ++ "_" ++ toString depth

/-! ## 2. Slots -/

/-- How a delegated value at a place is written out. -/
abbrev Inliner := DelegateCall → Place → Emit Value

namespace Inliner

/-- The value at a place, written out or copied. -/
def convert (inline : Inliner) (s : Option Strategy) (p : Place) (byValue : Bool) : Emit Value :=
  match s with
  | none => .ok (.read p byValue)
  | some (.delegate c) => inline c p
  | some _ =>
    .error (.skip (.inconsistent "helper strategy reached an expression projection"))

/-- The present value of a slot; where the absent one is kept it is an option. -/
def slotValue (inline : Inliner) (el : ElementMapping) (binding : String) : Emit Value := do
  let v ← inline.convert el.strategy (.binding binding false) el.byValue
  return v.lifted (el.onNull == some .propagate)

/-- The value of a slot at a place. -/
def slot (inline : Inliner) (el : ElementMapping) (p : Place) (binding : String) : Emit Value :=
  match el.onNull with
  | none => do
    let v ← inline.convert el.strategy p el.byValue
    return v.lifted el.destination.nullable
  | some .propagate => do
    let v ← inline.slotValue el binding
    return .chained p binding v
  | some _ => do
    let v ← inline.slotValue el binding
    return .orStandard (.mapped p binding v)

/-- Absent values of a slot are left out together with what they belong to. -/
def leavesOut (el : ElementMapping) : Bool := el.onNull == some .drop || el.onNull == some .guard

/-- The value of a slot of a map. -/
def mapSlot (inline : Inliner) (el : ElementMapping) (binding : String) : Emit Value :=
  let p : Place := .binding binding el.source.nullable
  if leavesOut el then do
    let v ← inline.slotValue el binding
    return .required (.mapped p binding v)
  else inline.slot el p binding

/-- The elements of a collection. -/
def collection (inline : Inliner) (depth : Nat) (p : Place) (target : CollectionKind)
    (el : ElementMapping) : Emit Value :=
  let flattened := leavesOut el
  let items : Items := ⟨p, flattened⟩
  let binding := atDepth "element" depth
  if el.strategy.isNone && (el.onNull.isNone || flattened) then
    .ok (.copies items el.byValue target)
  else do
    let v ← if flattened then inline.slotValue el binding
      else inline.slot el (.binding binding el.source.nullable) binding
    return .each items binding v target .plain

/-- The entries of a map. -/
def entries (inline : Inliner) (depth : Nat) (p : Place) (target : MapKind)
    (k v : ElementMapping) : Emit Value := do
  let key ← inline.mapSlot k (atDepth "key" depth)
  let value ← inline.mapSlot v (atDepth "value" depth)
  return .entries p (atDepth "key" depth) (atDepth "value" depth) key value target .filtered

/-- The elements of a tuple from a position on. -/
def tupleFrom (inline : Inliner) (depth : Nat) (p : Place) : Nat → List ElementMapping →
    Emit (List Value)
  | _, [] => .ok []
  | i, el :: rest => do
    let v ← inline.slot el (.position p i el.source.nullable) (atDepth (atDepth "item" depth) i)
    let vs ← tupleFrom inline depth p (i + 1) rest
    return v :: vs

/-! ## 3. Properties -/

/-- The value at the end of a chain. -/
def terminal (inline : Inliner) (depth : Nat) (m : PropertyMapping) (p : Place) : Emit Value := do
  let v ← match m.shape with
    | .scalar => inline.convert m.strategy p m.terminal.byValue
    | .collection _ target el => inline.collection depth p target el
    | .map target k v => inline.entries depth p target k v
    | .tuple els => (inline.tupleFrom depth p 0 els).map .tuple
  return v.lifted m.destinationNullable

/-- The value along the links. -/
def along (inline : Inliner) (depth : Nat) (m : PropertyMapping) (base : Place) :
    List Hop → Emit Value
  | [] => inline.terminal depth m base
  | hop :: rest => do
    let name ← spelledName hop.name
    let p : Place := .field base name hop.nullable
    match hop.onNull with
    | none => along inline depth m p rest
    | some policy => do
      let binding ← made (atDepth hop.name depth)
      let v ← along inline depth m (.binding binding false) rest
      return match policy with
        | .propagate => .chained p binding v
        | _ => .orStandard (.mapped p binding v)

end Inliner

/-! ## 4. Literals -/

namespace Emitter

/-- How the value of a delegate call at a depth is written out, given the literals below. -/
def inlineAt (e : Emitter) (literal : MappingId → Place → Emit Value) (depth : Nat) : Inliner :=
  fun c p => do
    let id ← Emit.ofOption c.target (.unboundDelegate c.key)
    let target ← Emit.ofOption (e.arena.get? id) (.unknownMapping id)
    if target.maxRecursionDepth.toNat < depth + 1 then return .standard
    let name := inputName (atDepth "nested" (depth + 1)) (target.readsInput (depth + 1))
    let v ← literal id (.binding name false)
    return .inlined id (depth + 1) name p v

/-- The field of a property in the literal of a mapping at a depth. -/
def projectedField (inline : Inliner) (m : Mapping) (input : Place) (depth : Nat)
    (p : PropertyMapping) : Emit (String × Value) := do
  let name ← spelledName p.destination.name
  let v ← if m.cuts depth p then .ok .standard else inline.along depth p input p.source
  return (name, v)

/-- The literal of a mapping at a depth; below `fuel` further levels nothing is written out. -/
def literalFrom (e : Emitter) : Nat → Nat → MappingId → Place → Emit Value
  | 0, _, _, _ => .ok .standard
  | fuel + 1, depth, id, input => do
    let m ← Emit.ofOption (e.arena.get? id) (.unknownMapping id)
    let destination ← e.scope.path m.destination
    let inline := e.inlineAt (literalFrom e fuel (depth + 1)) depth
    let fields ← (m.properties.filter fun p => !p.needsHelper).mapM
      (projectedField inline m input depth)
    return .construct destination fields (m.properties.any PropertyMapping.needsHelper)

/-- The literal of a mapping that reads from a place. No depth is greater than one that some
mapping allows. -/
def literal (e : Emitter) (id : MappingId) (input : Place) : Emit Value :=
  e.literalFrom (e.arena.deepest + 1) 0 id input

end Emitter

/-! ## 5. Projections -/

/-- The routine that is a single expression. -/
structure Projection where
  name : String
  key : MappingKey
  input : String
  source : PathSpelling
  destination : PathSpelling
  body : Value
  deriving Inhabited

/-- The projection of a mapping. -/
def Emitter.projection (e : Emitter) : Emit Projection := do
  let name ← e.names.projection e.id
  let source ← e.scope.path e.mapping.source
  let destination ← e.scope.path e.mapping.destination
  let input := inputName "source" (e.mapping.readsInput 0)
  let body ← e.literal e.id (.binding input false)
  return ⟨name, e.mapping.key, input, source, destination, body⟩

namespace Projection

/-- The paths that a projection names. -/
def paths (p : Projection) : List PathSpelling := p.source :: p.destination :: p.body.paths

/-- The tokens of a projection. -/
def code (p : Projection) : Code :=
  docLine ("Project `" ++ p.key.source ++ "` into `" ++ p.key.destination
      ++ "` without calling helpers.")
    ++ op "#" ++ brackets (words ["must_use"]) ++ words ["pub", "fn", p.name]
    ++ parens (words [p.input] ++ op ":" ++ op "&" ++ p.source.code) ++ op "->"
    ++ p.destination.code ++ braces p.body.code

end Projection

end TypeMapper

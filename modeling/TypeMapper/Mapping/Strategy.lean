import TypeMapper.Catalog
import TypeMapper.Schema.Declaration
/-!
# Strategies

How one value is converted: by the routine of another mapping, by a method of a type or by a
resolver. A value without a strategy is copied.

* `MappingKey`: the pair of types that a mapping is for.
* `DelegateCall`: a call of another mapping's routine, unbound until its target is known.
* `Strategy.output?`: the type of the result, where the strategy tells it.
-/

namespace TypeMapper

/-! ## 1. Keys -/

/-- The number that an arena gives a mapping. -/
abbrev MappingId := Nat

/-- The source and the destination type of a mapping. -/
structure MappingKey where
  source : String
  destination : String
  deriving DecidableEq, Repr, Inhabited

namespace MappingKey

/-- The text of a key. -/
def text (k : MappingKey) : String := k.source ++ " -> " ++ k.destination

/-- The mapping is from a type to itself. -/
def isSelf (k : MappingKey) : Bool := k.source == k.destination

/-- The order of keys: by source, then by destination. -/
instance : LT MappingKey where
  lt a b := a.source < b.source ∨ a.source = b.source ∧ a.destination < b.destination

instance : DecidableLT MappingKey := fun a b =>
  inferInstanceAs (Decidable
    (a.source < b.source ∨ a.source = b.source ∧ a.destination < b.destination))

instance : KeyOrder MappingKey where
  irrefl a h := h.elim (KeyOrder.irrefl _) fun h => KeyOrder.irrefl _ h.2
  trans := by
    rintro a b c (hab | ⟨hab, hab'⟩) (hbc | ⟨hbc, hbc'⟩)
    · exact .inl (KeyOrder.trans hab hbc)
    · exact .inl (hbc ▸ hab)
    · exact .inl (hab ▸ hbc)
    · exact .inr ⟨hab.trans hbc, KeyOrder.trans hab' hbc'⟩
  total := by
    intro a b hnlt hne
    by_cases hs : a.source = b.source
    · have hd : a.destination ≠ b.destination := fun hd => hne (by cases a; cases b; simp_all)
      exact .inr ⟨hs.symm, KeyOrder.total (fun hlt => hnlt (.inr ⟨hs, hlt⟩)) hd⟩
    · exact .inl (KeyOrder.total (fun hlt => hnlt (.inl hlt)) hs)

end MappingKey

/-! ## 2. Calls -/

/-- A call of the routine of another mapping; without a target it is not bound yet. -/
structure DelegateCall where
  key : MappingKey
  target : Option MappingId
  deriving DecidableEq, Repr, Inhabited

/-- The call has its target. -/
def DelegateCall.isBound (c : DelegateCall) : Bool := c.target.isSome

/-- A call of a method. -/
structure MethodCall where
  name : String
  /-- The type that declares the method. -/
  owner : String
  subject : TypeRef
  returns : TypeRef
  /-- The parameters behind the subject that callers supply. -/
  arguments : List Parameter
  isAsync : Bool
  deriving DecidableEq, Repr, Inhabited

/-- A call of the resolver instance that the routine holds under the name `instanceName`. -/
structure ResolverCall where
  instanceName : String
  path : String
  source : TypeRef
  destination : TypeRef
  isAsync : Bool
  deriving DecidableEq, Repr, Inhabited

/-! ## 3. Strategies -/

/-- How a value is converted. -/
inductive Strategy where
  | delegate (call : DelegateCall)
  | method (call : MethodCall)
  | resolver (call : ResolverCall)
  deriving DecidableEq, Repr, Inhabited

namespace Strategy

/-- What a strategy is called in messages. -/
def kind : Strategy → String
  | .delegate _ => "mapper"
  | .method _ => "method"
  | .resolver _ => "resolver"

/-- The helper that is called is asynchronous; a delegate follows its target. -/
def isAsync : Strategy → Bool
  | .delegate _ => false
  | .method c => c.isAsync
  | .resolver c => c.isAsync

/-- The type of the result, unless another mapping decides it. -/
def output? : Strategy → Option TypeRef
  | .delegate _ => none
  | .method c => some c.returns
  | .resolver c => some c.destination

/-- The strategy calls a method or a resolver. -/
def needsHelper : Strategy → Bool
  | .delegate _ => false
  | _ => true

/-- The strategy takes a value that may be absent. -/
def acceptsNull : Strategy → Bool
  | .delegate _ => false
  | .method c => c.subject.nullable
  | .resolver c => c.source.nullable

/-- The delegate call, if the strategy is one. -/
def delegate? : Strategy → Option DelegateCall
  | .delegate c => some c
  | _ => none

/-- Change a delegate call and leave other strategies alone. -/
def mapDelegate (f : DelegateCall → DelegateCall) : Strategy → Strategy
  | .delegate c => .delegate (f c)
  | s => s

@[simp] theorem delegate?_mapDelegate (f : DelegateCall → DelegateCall) (s : Strategy) :
    (s.mapDelegate f).delegate? = s.delegate?.map f := by cases s <;> rfl

end Strategy

end TypeMapper

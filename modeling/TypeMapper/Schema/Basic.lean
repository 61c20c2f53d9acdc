import TypeMapper.Catalog
import TypeMapper.Schema.Declaration
/-!
# Schemas

A schema is everything that one run of the generator knows: the types and the resolvers, each kind
in the order of its paths. Base types make chains: the properties and methods of a type are those of
its chain, the most derived declaration first.

* `Schema.chain`: the type at a path and its bases, up to a base that is unknown or met before.
* `Schema.flattened`: the properties along the chain; a name hides the same name further up.
* `Schema.isByValue`: whether a value of a type is copied bit by bit.
-/

namespace TypeMapper

/-! ## 1. Schemas -/

/-- The declared types and resolvers. -/
structure Schema where
  types : Catalog TypeDecl TypeDecl.path
  resolvers : Catalog Resolver Resolver.path
  deriving DecidableEq

namespace Schema

/-- The schema without declarations. -/
def empty : Schema := ⟨Catalog.empty, Catalog.empty⟩

instance : Inhabited Schema := ⟨empty⟩

/-- The schema of listed declarations; a later one replaces an earlier one of its path. -/
def ofLists (types : List TypeDecl) (resolvers : List Resolver) : Schema :=
  ⟨Catalog.ofList types, Catalog.ofList resolvers⟩

/-- The type at a path. -/
def type? (s : Schema) (path : String) : Option TypeDecl := s.types.find? path

/-- The resolver at a path. -/
def resolver? (s : Schema) (path : String) : Option Resolver := s.resolvers.find? path

/-- The path names a type. -/
def hasType (s : Schema) (path : String) : Bool := (s.type? path).isSome

/-! ## 2. Chains of bases -/

/-- The base of a type, if it has one that the schema knows. -/
def base? (s : Schema) (t : TypeDecl) : Option TypeDecl := t.base.bind s.type?

/-- The chain from a type on, without the types at the paths `seen`; `fuel` bounds its length. -/
def chainFrom (s : Schema) : Nat → List String → Option TypeDecl → List TypeDecl
  | 0, _, _ => []
  | _, _, none => []
  | fuel + 1, seen, some t =>
    if seen.contains t.path then []
    else t :: chainFrom s fuel (t.path :: seen) (s.base? t)

/-- The type at a path and its bases, most derived first. -/
def chain (s : Schema) (path : String) : List TypeDecl :=
  chainFrom s (s.types.toList.length + 1) [] (s.type? path)

/-- The properties of types in order, without those of a name that an earlier type declares. -/
def visible : List String → List TypeDecl → List Property
  | _, [] => []
  | hidden, t :: rest =>
    let own := t.properties.filter fun p => !hidden.contains p.name
    own ++ visible (hidden ++ own.map Property.name) rest

/-- The properties of the type at a path along its chain. -/
def flattened (s : Schema) (path : String) : List Property := visible [] (s.chain path)

/-- The methods of a name along the chain, each with the type that declares it. -/
def methodsNamed (s : Schema) (path name : String) : List (TypeDecl × Method) :=
  (s.chain path).flatMap fun t => (t.methodsNamed name).map fun m => (t, m)

/-! ## 3. Value semantics -/

mutual

/-- A value of the type is copied bit by bit. -/
def isByValue (s : Schema) : TypeRef → Bool
  | .scalar _ v _ => v
  | .object p _ => ((s.type? p).map TypeDecl.byValue).getD false
  | .collection .. => false
  | .map .. => false
  | .tuple es _ => areByValue s es

/-- Values of all types of a list are copied bit by bit. -/
def areByValue (s : Schema) : List TypeRef → Bool
  | [] => true
  | t :: ts => isByValue s t && areByValue s ts

end

end Schema

end TypeMapper

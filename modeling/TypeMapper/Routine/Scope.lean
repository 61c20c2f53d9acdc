import TypeMapper.Code.Grammar
import TypeMapper.Mapping.Arena
import TypeMapper.Routine.Names
import TypeMapper.Text.Distinct
/-!
# Spelling types

An artifact imports the types that it names and spells their bare names. A path stays whole if its
last name ends another path that the artifact may name, or if it begins at a foreign crate.

* `Scope.ofArena`: the names that more than one path ends in.
* `PathSpelling`, `TypeSpelling`: how a path and a type are spelled, with `code` and `paths`.
* `Scope.path`, `Scope.type`: the spelling of a path and of a type.
-/

namespace TypeMapper

/-! ## 1. Spellings -/

/-- How a path is spelled. -/
inductive PathSpelling where
  /-- By its bare name; the whole path is imported. -/
  | imported (path name : String)
  /-- In full. -/
  | qualified (code : Code)
  deriving Inhabited

namespace PathSpelling

/-- The tokens of a path. -/
def code : PathSpelling → Code
  | imported _ name => words [name]
  | qualified code => code

/-- The path that must be imported. -/
def import? : PathSpelling → Option String
  | imported path _ => some path
  | qualified _ => none

end PathSpelling

/-- How a type is spelled. -/
inductive TypeSpelling where
  | scalar (code : Code)
  | named (path : PathSpelling)
  | boxedSlice (element : TypeSpelling)
  | vector (element : TypeSpelling)
  | map (kind : MapKind) (key value : TypeSpelling)
  | tuple (elements : List TypeSpelling)
  | optional (present : TypeSpelling)
  deriving Inhabited

/-- The tokens of a kind of map. -/
def MapKind.code : MapKind → Code
  | .btree => rooted ["std", "collections", "BTreeMap"]
  | .hash => rooted ["std", "collections", "HashMap"]

namespace TypeSpelling

mutual

/-- The tokens of a type. -/
def code : TypeSpelling → Code
  | scalar c => c
  | named p => p.code
  | boxedSlice e => words ["Box"] ++ angles (brackets (code e))
  | vector e => words ["Vec"] ++ angles (code e)
  | map kind k v => kind.code ++ angles (code k ++ op "," ++ code v)
  | tuple es => parens (codes es)
  | optional t => words ["Option"] ++ angles (code t)

/-- The tokens of the elements of a tuple. -/
def codes : List TypeSpelling → Code
  | [] => []
  | t :: rest => code t ++ op "," ++ codes rest

end

mutual

/-- The paths in a type. -/
def paths : TypeSpelling → List PathSpelling
  | scalar _ => []
  | named p => [p]
  | boxedSlice e => paths e
  | vector e => paths e
  | map _ k v => paths k ++ paths v
  | tuple es => pathsOf es
  | optional t => paths t

/-- The paths in types. -/
def pathsOf : List TypeSpelling → List PathSpelling
  | [] => []
  | t :: rest => paths t ++ pathsOf rest

end

end TypeSpelling

/-! ## 2. Scopes -/

/-- The paths that a property mapping may name. -/
def PropertyMapping.mentions (p : PropertyMapping) : List String :=
  let slots := match p.shape with
    | .tuple es => es.flatMap fun e => e.source.objectPaths
    | _ => []
  let calls := p.strategies.flatMap fun
    | .method c => c.owner :: (c.subject.objectPaths ++ c.returns.objectPaths)
    | .resolver c => c.source.objectPaths ++ c.destination.objectPaths
    | .delegate _ => []
  (p.source.flatMap fun h => h.ty.objectPaths) ++ p.destination.ty.objectPaths ++ slots ++ calls

/-- The paths that the routines of a mapping may name. -/
def Mapping.mentions (m : Mapping) : List String :=
  m.source :: m.destination :: (m.properties.flatMap PropertyMapping.mentions
    ++ m.resolvers.map ResolverInstance.path
    ++ m.localParameters.flatMap fun p => p.ty.objectPaths)

/-- The last names of paths that are not enough to tell the paths apart. -/
structure Scope where
  clashes : List String
  deriving Repr, Inhabited

namespace Scope

/-- The scope of an artifact that may name some paths. -/
def ofPaths (paths : List String) : Scope :=
  let names := (Text.distinct (paths.map TypePath.anchored)).map TypePath.ident
  ⟨names.filter fun n => decide (1 < names.count n)⟩

/-- The scope of the artifact of a mapping: that of all mappings it reaches. -/
def ofArena (a : Arena) (id : MappingId) : Scope :=
  ofPaths (((a.reachable id).filterMap a.get?).flatMap Mapping.mentions)

/-- The spelling of a path. -/
def path (s : Scope) (path : String) : Emit PathSpelling :=
  let whole := TypePath.anchored path
  let last := TypePath.ident whole
  if s.clashes.contains last || TypePath.isForeign whole then
    (Emit.ofOption (Code.path? whole) (.invalidPath whole)).map .qualified
  else (spelledName last).map (.imported whole)

/-- A type that may be absent. -/
def orAbsent (nullable : Bool) (t : TypeSpelling) : TypeSpelling :=
  if nullable then .optional t else t

mutual

/-- The spelling of a type. -/
def type (s : Scope) : TypeRef → Emit TypeSpelling
  | .scalar name _ n =>
    (Emit.ofOption (Code.type? name) (.invalidType name)).map fun c => orAbsent n (.scalar c)
  | .object p n => (s.path p).map fun p => orAbsent n (.named p)
  | .collection .array e n => (type s e).map fun e => orAbsent n (.boxedSlice e)
  | .collection _ e n => (type s e).map fun e => orAbsent n (.vector e)
  | .map kind k v n => do
    let k ← type s k
    let v ← type s v
    return orAbsent n (.map kind k v)
  | .tuple es n => (types s es).map fun es => orAbsent n (.tuple es)

/-- The spellings of types. -/
def types (s : Scope) : List TypeRef → Emit (List TypeSpelling)
  | [] => .ok []
  | t :: rest => do
    let t ← type s t
    let rest ← types s rest
    return t :: rest

end

end Scope

end TypeMapper

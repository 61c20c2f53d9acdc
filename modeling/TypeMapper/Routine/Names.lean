import TypeMapper.Code.Grammar
import TypeMapper.Mapping.Arena
import TypeMapper.Routine.Obstacle
import TypeMapper.TypePath
/-!
# Names of routines

Every mapping has a base name, from which its module, its routines and its file are named. The base
name is made of the names of both types; where several mappings would share one it is made of the
whole paths, and where that is taken the id is put behind it.

* `RoutineNames.ofArena`: the base names of an arena; `RoutineNames.base?` looks one up.
* `made`: a made name, which must be a word of the language.
* `RoutineNames.routine`, `many`, `projection`, `moduleName`: the names made of a base name.
-/

namespace TypeMapper

/-! ## 1. Base names -/

namespace MappingKey

/-- The base name of the names of both types. -/
def shortName (k : MappingKey) : String :=
  TypePath.snakeIdent k.source ++ "_to_" ++ TypePath.snakeIdent k.destination

/-- The base name of the paths of both types. -/
def longName (k : MappingKey) : String :=
  TypePath.snakePath k.source ++ "_to_" ++ TypePath.snakePath k.destination

end MappingKey

/-- The base names of the mappings of an arena by id. -/
structure RoutineNames where
  bases : List String
  deriving Repr, Inhabited

namespace RoutineNames

/-- The base name that a key would have among keys if no other name were taken. -/
def wanted (keys : List MappingKey) (k : MappingKey) : String :=
  if 1 < keys.countP fun k' => k'.shortName == k.shortName then k.longName else k.shortName

/-- A name that is taken gets the id behind it. -/
def settle (taken : List String) (id : MappingId) (name : String) : String :=
  if taken.contains name then name ++ "_" ++ toString id else name

/-- Settle the names of mappings in order, from an id on. -/
def settleAll (taken : List String) (id : MappingId) : List String → List String
  | [] => []
  | name :: rest =>
    let base := settle taken id name
    base :: settleAll (base :: taken) (id + 1) rest

/-- The base names of the mappings of an arena. -/
def ofArena (a : Arena) : RoutineNames := ⟨settleAll [] 0 (a.keys.map (wanted a.keys))⟩

/-- The base name of a mapping. -/
def base? (n : RoutineNames) (id : MappingId) : Option String := n.bases[id]?

/-- The base name of a mapping that must be known. -/
def base (n : RoutineNames) (id : MappingId) : Emit String :=
  Emit.ofOption (n.base? id) (.unknownMapping id)

end RoutineNames

/-! ## 2. Made names -/

/-- The text is a word, perhaps a raw one. -/
def isWord (s : String) : Bool :=
  match Word.read? s.toList with
  | some (_, []) => true
  | _ => false

/-- A made name. -/
def made (name : String) : Emit String :=
  if isWord name then .ok name else .error (.malformed name)

/-- The name that a text of the schema is. -/
def spelledName (text : String) : Emit String :=
  Emit.ofOption (Code.name? text) (.invalidName text)

namespace RoutineNames

/-- The name of the module of a mapping. -/
def moduleName (n : RoutineNames) (id : MappingId) : Emit String := n.base id >>= made

/-- The name of the routine of a mapping. -/
def routine (n : RoutineNames) (id : MappingId) : Emit String := do
  made ("map_" ++ (← n.base id))

/-- The name of the routine over a sequence. -/
def many (n : RoutineNames) (id : MappingId) : Emit String := do
  made ("map_many_" ++ (← n.base id))

/-- The name of the routine that is a single expression. -/
def projection (n : RoutineNames) (id : MappingId) : Emit String := do
  made ("project_" ++ (← n.base id))

theorem length_settleAll (names : List String) :
    ∀ (taken : List String) (id : MappingId), (settleAll taken id names).length = names.length := by
  induction names with
  | nil => intro _ _; rfl
  | cons n rest ih => intro taken id; simp [settleAll, ih]

/-- Every mapping has a base name. -/
theorem length_bases (a : Arena) : (ofArena a).bases.length = a.size := by
  simp [ofArena, length_settleAll, Arena.keys]

end RoutineNames

end TypeMapper

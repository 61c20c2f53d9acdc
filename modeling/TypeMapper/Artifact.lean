import TypeMapper.Batch
import TypeMapper.Routine.Projection
import TypeMapper.Routine.Sequence
/-!
# Artifacts

Every accepted mapping becomes an artifact: a module with its routines and the imports they need.
Side artifacts register the routines that need nothing but a source, and dispatch to them by the
types at run time. What cannot be spelled is replaced by a comment that says why.

* `MappingModule`: the module of a mapping; `Emitter.module` makes it.
* `Dispatch`: the routines of a side artifact.
* `Artifact`: a name and what it holds; `Artifact.source` is its text.
* `Batch.artifacts`: the artifacts of a batch; `combine`: the texts of artifacts as one text.
-/

namespace TypeMapper

/-! ## 1. Modules -/

/-- The module of a mapping. -/
structure MappingModule where
  name : String
  primary : PrimaryRoutine
  sequence : Option SequenceRoutine
  projection : Option Projection
  imports : List Code
  /-- The imports that the settings ask for. -/
  extraImports : List Code
  deriving Inhabited

/-- The paths that must be imported, in order. -/
def importPaths (ps : List PathSpelling) : List String :=
  Text.distinct (ps.filterMap PathSpelling.import?)

/-- The tokens of imports. -/
def importCodes (paths : List String) : Emit (List Code) :=
  paths.mapM fun p => Emit.ofOption (Code.path? p) (.invalidPath p)

/-- The tokens of an import that the settings ask for. -/
def extraImport (text : String) : Emit Code :=
  Emit.ofOption (Code.importTree? text) (.invalidPath text)

/-- What is made if it is asked for. -/
def ifAsked {α : Type} (asked : Bool) (x : Emit α) : Emit (Option α) :=
  if asked then x.map some else .ok none

/-- The module of a mapping. -/
def Emitter.module (e : Emitter) : Emit MappingModule := do
  let name ← e.names.moduleName e.id
  let primary ← e.primary
  let sequence ← ifAsked e.config.sequenceVariant e.sequence
  let projection ← ifAsked e.config.expressionVariant e.projection
  let paths := primary.paths ++ (sequence.map SequenceRoutine.paths).getD []
    ++ (projection.map Projection.paths).getD []
  let imports ← importCodes (importPaths paths)
  let extraImports ← e.config.extraImports.mapM extraImport
  return ⟨name, primary, sequence, projection, imports, extraImports⟩

namespace MappingModule

/-- The paths that a module names. -/
def paths (m : MappingModule) : List PathSpelling :=
  m.primary.paths ++ (m.sequence.map SequenceRoutine.paths).getD []
    ++ (m.projection.map Projection.paths).getD []

/-- The tokens of a module. -/
def code (m : MappingModule) : Code :=
  let own := m.imports.flatMap fun p => words ["use"] ++ p ++ op ";"
  let extra := m.extraImports.flatMap fun p =>
    op "#" ++ brackets (words ["allow"] ++ parens (words ["unused_imports"]))
      ++ words ["use"] ++ p ++ op ";"
  words ["pub", "mod", m.name]
    ++ braces (own ++ extra ++ m.primary.code ++ (m.sequence.map SequenceRoutine.code).getD []
      ++ (m.projection.map Projection.code).getD [])
    ++ words ["pub", "use", m.name] ++ op "::" ++ op "*" ++ op ";"

end MappingModule

/-! ## 2. Side artifacts -/

/-- A routine between two types, which are spelled in full. -/
structure Dispatch where
  source : Code
  destination : Code
  routine : String
  deriving Inhabited

/-- The routine of a mapping needs nothing but a source. -/
def Mapping.isPlain (m : Mapping) : Bool := m.isValid && !m.isAsync && m.isParameterless

/-- A path in full. -/
def fullPath (path : String) : Emit Code :=
  let whole := TypePath.anchored path
  Emit.ofOption (Code.path? whole) (.invalidPath whole)

namespace Dispatch

/-- The routine of a mapping. -/
def ofMapping (names : RoutineNames) (p : MappingId × Mapping) : Emit Dispatch := do
  let source ← fullPath p.2.source
  let destination ← fullPath p.2.destination
  let routine ← names.routine p.1
  return ⟨source, destination, routine⟩

/-- The routines of an arena that need nothing but a source. -/
def ofArena (a : Arena) (names : RoutineNames) : Emit (List Dispatch) :=
  (a.entries.filter fun p => p.2.isPlain).mapM (ofMapping names)

/-- The tokens that register a routine. -/
def registerCode (d : Dispatch) : Code :=
  words ["registry"] ++ op "." ++ words ["register"] ++ op "::"
    ++ angles (d.source ++ op "," ++ d.destination)
    ++ parens (Value.bars (words ["source"]) ++ words [d.routine] ++ parens (words ["source"]))
    ++ op ";"

/-- The tokens of the registration of routines. -/
def registrationCode (ds : List Dispatch) : Code :=
  rawDoc " Register every generated routine that needs no extra parameters."
    ++ words ["pub", "fn", "register_mappers"]
    ++ parens (words ["registry"] ++ op ":" ++ op "&" ++ words ["mut"]
      ++ Value.runtime ["MapperRegistry"])
    ++ braces (ds.flatMap registerCode)
where
  /-- A description that is written as it is. -/
  rawDoc (s : String) : Code :=
    op "#" ++ brackets (words ["doc"] ++ op "=" ++ [.literal ("r\"" ++ s ++ "\"")])

/-- The identity of a type at run time. -/
def typeIdCode (type : Code) : Code :=
  rooted ["std", "any", "TypeId", "of"] ++ op "::" ++ angles type ++ parens []

/-- The type of values of any type. -/
def anyCode : Code := rooted ["std", "any", "Any"]

/-- The tokens that try a routine. -/
def tryCode (d : Dispatch) : Code :=
  let downcast (method : String) (type : Code) : Code :=
    op "." ++ words [method] ++ op "::" ++ angles type ++ parens []
  let returns := words ["return", "Ok"] ++ parens (op "*" ++ words ["destination"]) ++ op ";"
  let ifOk := words ["if", "let", "Ok"] ++ parens (words ["destination"]) ++ op "="
    ++ words ["destination"] ++ downcast "downcast" (words ["D"]) ++ braces returns
  let maps := words ["let", "destination"] ++ op ":" ++ words ["Box"]
    ++ angles (words ["dyn"] ++ anyCode) ++ op "=" ++ words ["Box"] ++ op "::" ++ words ["new"]
    ++ parens (words [d.routine] ++ parens (words ["source"]) ++ op "?") ++ op ";"
  let ifSource := words ["if", "let", "Some"] ++ parens (words ["source"]) ++ op "="
    ++ words ["source"] ++ downcast "downcast_ref" d.source ++ braces (maps ++ ifOk)
  words ["if"] ++ typeIdCode (words ["D"]) ++ op "==" ++ typeIdCode d.destination
    ++ braces ifSource

/-- The name of a type at run time. -/
def typeNameCode (type : String) : Code :=
  rooted ["std", "any", "type_name"] ++ op "::" ++ angles (words [type]) ++ parens []

/-- The tokens of the dispatch to routines. -/
def dispatchCode (ds : List Dispatch) : Code :=
  let bounded (name : String) : Code := words [name] ++ op ":" ++ anyCode
  registrationCode.rawDoc " Map `source` to `D` through whichever generated routine handles"
    ++ registrationCode.rawDoc " that pair of runtime types."
    ++ words ["pub", "fn", "map_dyn"] ++ angles (bounded "S" ++ op "," ++ bounded "D")
    ++ parens (words ["source"] ++ op ":" ++ op "&" ++ words ["S"] ++ op ",")
    ++ op "->" ++ words ["Result"] ++ angles (words ["D"] ++ op "," ++ Value.errorCode)
    ++ braces (words ["let", "source"] ++ op ":" ++ op "&" ++ words ["dyn"] ++ anyCode ++ op "="
      ++ words ["source"] ++ op ";" ++ ds.flatMap tryCode ++ words ["Err"]
      ++ parens (Value.runtime ["MappingError", "not_configured"]
        ++ parens (terminated [typeNameCode "S", typeNameCode "D"])))

end Dispatch

/-! ## 3. Artifacts -/

/-- What an artifact holds. -/
inductive ArtifactBody where
  | module (m : MappingModule)
  | registration (routines : List Dispatch)
  | dispatch (routines : List Dispatch)
  /-- Nothing, and why. -/
  | skipped (subject reason : String)
  deriving Inhabited

/-- A generated file. -/
structure Artifact where
  name : String
  body : ArtifactBody
  deriving Inhabited

/-- The first line of every file. -/
def headerLine : String := "// @generated by mapforge. Do not edit."

namespace ArtifactBody

/-- The text of what an artifact holds. -/
def text : ArtifactBody → String
  | module m => Code.text m.code
  | registration ds => Code.text (Dispatch.registrationCode ds)
  | dispatch ds => Code.text (Dispatch.dispatchCode ds)
  | skipped subject reason => "// mapforge: skipped " ++ subject ++ ": " ++ reason

/-- Nothing came out. -/
def isSkipped : ArtifactBody → Bool
  | skipped .. => true
  | _ => false

end ArtifactBody

namespace Artifact

/-- The name of the file. -/
def fileName (a : Artifact) : String := a.name ++ ".rs"

/-- The text of the file. -/
def source (a : Artifact) : String := headerLine ++ "\n" ++ a.body.text ++ "\n"

/-- The artifact that is made, or the comment in its place; a malformed name stops everything. -/
def ofEmit (name subject : String) : Emit ArtifactBody → Except String Artifact
  | .ok body => .ok ⟨name, body⟩
  | .error (.skip e) => .ok ⟨name, .skipped subject e.message⟩
  | .error (.malformed made) => .error made

/-- The artifact of a mapping. -/
def ofMapping (a : Arena) (c : Config) (names : RoutineNames) (p : MappingId × Mapping) :
    Except String Artifact :=
  let module := ((Emitter.ofArena a c names p.1 p.2).module).map ArtifactBody.module
  ofEmit ((names.base? p.1).getD "") p.2.key.text module

/-- A side artifact, if it is asked for. -/
def side (asked : Bool) (name : String) (body : Emit ArtifactBody) :
    Except String (List Artifact) :=
  if asked then (ofEmit name name body).map ([·]) else .ok []

end Artifact

namespace Batch

/-- The accepted mappings with their ids. -/
def accepted (b : Batch) : List (MappingId × Mapping) := b.arena.entries.filter fun p => p.2.isValid

/-- The artifacts of a batch, those of mappings first, or the first malformed name. -/
def artifacts (b : Batch) (c : Config) : Except String (List Artifact) := do
  let names := RoutineNames.ofArena b.arena
  let modules ← b.accepted.mapM (Artifact.ofMapping b.arena c names)
  let routines := Dispatch.ofArena b.arena names
  let registration ← Artifact.side c.registration "registration" (routines.map .registration)
  let dispatch ← Artifact.side c.dispatch "dispatch" (routines.map .dispatch)
  return modules ++ registration ++ dispatch

end Batch

/-! ## 4. One file -/

/-- What follows the first line, if the text starts with it. -/
def withoutHeader (source : List Char) : List Char :=
  if headerLine.toList.isPrefixOf source then source.drop headerLine.length else source

/-- The text of an artifact without its first line and the line breaks behind it. -/
def bodyChars (source : String) : List Char :=
  (withoutHeader source.toList).dropWhile fun c => c == '\n'

/-- The texts of artifacts under one first line. -/
def combine (sources : List String) : String :=
  headerLine ++ "\n" ++ String.ofList (sources.flatMap bodyChars)

end TypeMapper

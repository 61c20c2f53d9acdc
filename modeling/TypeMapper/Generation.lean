import TypeMapper.Artifact
import TypeMapper.Schema.Json
import TypeMapper.Schema.Validation
/-!
# Generation

A generation is the result of one run: the artifacts and every report. Bad settings and a schema
that is not well formed are errors; what is wrong with single mappings is reported.

* `generate`: a run on a schema with settings.
* `Generation.combined`, `Generation.files`: the texts that come out.
* `generateFromTexts`: a run on what a snapshot and a settings file hold.
-/

namespace TypeMapper

/-! ## 1. Runs -/

/-- The result of a run. -/
structure Generation where
  artifacts : List Artifact
  diagnostics : List Diagnostic
  deriving Inhabited

/-- Why a run fails. -/
inductive GenerationError where
  | invalidConfig (p : Config.Problem)
  | invalidSchema (problems : ErrorTree)
  /-- A made name is none. -/
  | malformedName (name : String)
  deriving Inhabited

/-- Run the generator on a schema. -/
def generate (s : Schema) (c : Config) : Except GenerationError Generation := do
  c.validate.mapError .invalidConfig
  s.validate.mapError .invalidSchema
  let b := Batch.discover s c
  let artifacts ← (b.artifacts c).mapError .malformedName
  return ⟨artifacts, b.allDiagnostics⟩

namespace Generation

/-- Some report is about an error. -/
def hasErrors (g : Generation) : Bool := Diagnostic.hasErrors g.diagnostics

/-- The first artifact of a name. -/
def artifact? (g : Generation) (name : String) : Option Artifact :=
  g.artifacts.find? fun a => a.name == name

/-- The texts of all artifacts as one text. -/
def combined (g : Generation) : String := combine (g.artifacts.map Artifact.source)

/-! ## 2. Files -/

/-- The name of the file with the texts of all artifacts. -/
def combinedName : String := "mapforge.rs"

/-- A file: its name and its text. -/
structure File where
  name : String
  text : String
  deriving DecidableEq, Repr, Inhabited

/-- The greatest size of the name of a file in bytes. -/
def fileNameLimit : Nat := 255

/-- The files in the order of writing: the artifacts, and the one with all of them. -/
def writes (g : Generation) : List File :=
  (g.artifacts.map fun a => ⟨a.fileName, a.source⟩) ++ [⟨combinedName, g.combined⟩]

/-- The files after writing, by name; of two of one name the later one stays. There are none if a
name is too long. -/
def files (g : Generation) : Option (Catalog File File.name) :=
  if g.writes.all fun f => decide (f.name.utf8ByteSize ≤ fileNameLimit) then
    some (Catalog.ofList g.writes)
  else none

end Generation

/-! ## 3. Runs on texts -/

/-- A settings file. -/
inductive ConfigFile where
  | missing
  | unreadable
  | text (s : String)
  deriving DecidableEq, Repr, Inhabited

/-- Why a run on texts fails. -/
inductive FileError where
  | unreadableSchema
  | invalidSnapshot (e : Json.DecodeError)
  | unreadableConfig
  | refusedConfig (e : Config.LoadError)
  | generation (e : GenerationError)

/-- The settings of a settings file; a missing one holds the standard settings. -/
def ConfigFile.load : ConfigFile → Except FileError Config
  | missing => .ok Config.standard
  | unreadable => .error .unreadableConfig
  | text s => (Config.load s).mapError .refusedConfig

/-- Run the generator on the text of a snapshot, if it can be read, and a settings file. -/
def generateFromTexts (snapshot : Option String) (config : ConfigFile) :
    Except FileError Generation := do
  match snapshot with
  | none => throw .unreadableSchema
  | some text =>
    let s ← (Schema.ofText text).mapError .invalidSnapshot
    let c ← config.load
    (generate s c).mapError .generation

end TypeMapper

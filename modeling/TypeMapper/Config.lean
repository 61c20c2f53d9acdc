import TypeMapper.Json.Decoding
import TypeMapper.Text.Quoted
import TypeMapper.Toml
/-!
# Settings of a run

The settings say which variants of a routine are generated, what a null means while mapping, what
every artifact imports and how deeply recursive mappings are unrolled.

* `Config`: the settings; `Config.standard`: those that count if none are given.
* `Config.validate`: the depth lies between 1 and `depthLimit` and no import is blank.
* `Config.decode`, `Config.ofToml?`, `Config.load`: settings from JSON and from a settings file.
-/

namespace TypeMapper

open Json

/-! ## 1. Settings -/

/-- The settings of one run of the generator. -/
structure Config where
  /-- A required property that is null raises an error. -/
  throwOnNullProperty : Bool
  /-- A required element that is null raises an error; otherwise it is dropped. -/
  throwOnNullElement : Bool
  /-- Generate the routine over a sequence. -/
  sequenceVariant : Bool
  /-- Generate the routine that is a single expression. -/
  expressionVariant : Bool
  /-- Call the hook on every fresh destination. -/
  afterHook : Bool
  /-- Generate the registration of all routines. -/
  registration : Bool
  /-- Generate the dispatch on runtime types. -/
  dispatch : Bool
  /-- Paths that every artifact imports. -/
  extraImports : List String
  /-- The depth to which recursive mappings are unrolled. -/
  maxRecursionDepth : UInt32
  deriving DecidableEq, Repr

namespace Config

/-- The greatest depth of unrolling that is accepted. -/
def depthLimit : UInt32 := 16

/-- The settings that count if none are given. -/
def standard : Config := ⟨true, true, true, false, true, false, false, [], 3⟩

instance : Inhabited Config := ⟨standard⟩

/-! ## 2. Validation -/

/-- Why settings are refused. -/
inductive Problem where
  | depthOutOfRange (depth : UInt32)
  | blankImport (path : String)
  deriving DecidableEq, Repr

/-- The wording of a refusal. -/
def Problem.message : Problem → String
  | .depthOutOfRange depth =>
    "invalid config: max_recursion_depth must be within 1..=" ++ toString depthLimit.toNat
      ++ ", got " ++ toString depth.toNat
  | .blankImport path =>
    "invalid config: extra_imports contains an empty path: " ++ Text.quoted path

/-- Accept settings whose depth is in range and whose imports are not blank. -/
def validate (c : Config) : Except Problem Unit :=
  if c.maxRecursionDepth = 0 ∨ depthLimit < c.maxRecursionDepth then
    .error (.depthOutOfRange c.maxRecursionDepth)
  else
    match c.extraImports.find? Text.isBlankText with
    | some path => .error (.blankImport path)
    | none => .ok ()

/-- Accepted settings have a depth between 1 and the limit. -/
theorem depth_of_validate {c : Config} (h : c.validate = .ok ()) :
    c.maxRecursionDepth ≠ 0 ∧ c.maxRecursionDepth ≤ depthLimit := by
  unfold validate at h
  split at h
  · simp at h
  · rename_i hd
    simpa only [not_or, UInt32.not_lt] using hd

/-! ## 3. JSON -/

/-- The JSON form of settings. -/
def toJson (c : Config) : Json :=
  .obj [("throw_on_null_property", .bool c.throwOnNullProperty),
    ("throw_on_null_element", .bool c.throwOnNullElement),
    ("generate_sequence_variant", .bool c.sequenceVariant),
    ("generate_expression_variant", .bool c.expressionVariant),
    ("generate_after_hook", .bool c.afterHook),
    ("generate_registration", .bool c.registration),
    ("generate_dispatch", .bool c.dispatch),
    ("extra_imports", Json.strings c.extraImports),
    ("max_recursion_depth", .nat c.maxRecursionDepth.toNat)]

/-- The reader of settings; what is not given stays standard and no other member is accepted. -/
def decode : Decoder Config :=
  Decoder.record "MapperConfig"
    [.may "throw_on_null_property" Decoder.flag fun x c => { c with throwOnNullProperty := x },
     .may "throw_on_null_element" Decoder.flag fun x c => { c with throwOnNullElement := x },
     .may "generate_sequence_variant" Decoder.flag fun x c => { c with sequenceVariant := x },
     .may "generate_expression_variant" Decoder.flag fun x c => { c with expressionVariant := x },
     .may "generate_after_hook" Decoder.flag fun x c => { c with afterHook := x },
     .may "generate_registration" Decoder.flag fun x c => { c with registration := x },
     .may "generate_dispatch" Decoder.flag fun x c => { c with dispatch := x },
     .may "extra_imports" (Decoder.listOf Decoder.text) fun x c => { c with extraImports := x },
     .may "max_recursion_depth" Decoder.word fun x c => { c with maxRecursionDepth := x }]
    .refuse standard

/-! ## 4. Settings files -/

/-- The texts in values. -/
def texts? : List Toml.Value → Option (List String)
  | [] => some []
  | .str s :: rest => (texts? rest).map (s :: ·)
  | _ :: _ => none

/-- Settings after one assignment, unless it names none of them or has a value of another kind. -/
def assign (c : Config) : String × Toml.Value → Option Config
  | ("throw_on_null_property", .bool b) => some { c with throwOnNullProperty := b }
  | ("throw_on_null_element", .bool b) => some { c with throwOnNullElement := b }
  | ("generate_sequence_variant", .bool b) => some { c with sequenceVariant := b }
  | ("generate_expression_variant", .bool b) => some { c with expressionVariant := b }
  | ("generate_after_hook", .bool b) => some { c with afterHook := b }
  | ("generate_registration", .bool b) => some { c with registration := b }
  | ("generate_dispatch", .bool b) => some { c with dispatch := b }
  | ("extra_imports", .arr vs) => (texts? vs).map fun xs => { c with extraImports := xs }
  | ("max_recursion_depth", .int n) =>
    if 0 ≤ n ∧ n.toNat < Json.wordLimit then
      some { c with maxRecursionDepth := UInt32.ofNat n.toNat }
    else none
  | _ => none

/-- Settings after assignments in order. -/
def assignAll : Config → List (String × Toml.Value) → Option Config
  | c, [] => some c
  | c, a :: rest => (c.assign a).bind fun c => assignAll c rest

/-- The settings of a document, not yet validated. -/
def ofToml? (text : String) : Option Config := (Toml.read text).bind standard.assignAll

/-- Why a settings file is refused. -/
inductive LoadError where
  | unreadable
  | invalid (p : Problem)
  deriving DecidableEq, Repr

/-- The valid settings of a document. -/
def load (text : String) : Except LoadError Config :=
  match ofToml? text with
  | none => .error .unreadable
  | some c =>
    match c.validate with
    | .ok () => .ok c
    | .error p => .error (.invalid p)

end Config

end TypeMapper

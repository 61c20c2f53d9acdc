import TypeMapper.Json.Value
/-!
# Diagnostics

What is wrong with a mapping is reported and never stops a run. A report has a code of fixed
meaning, a severity, a place and a message.

* `DiagnosticCode`: the closed list of codes, with `ident` (the stable text) and `severity`.
* `Diagnostic.report`: a report with the severity of its code.
* `hasErrors`, `hasCode`: questions about a list of reports.
-/

namespace TypeMapper

/-! ## 1. Codes -/

/-- How grave a report is. -/
inductive Severity where
  | info
  | warning
  | error
  deriving DecidableEq, Repr, Inhabited

namespace Severity

/-- The severity inside a line of text. -/
def word : Severity → String
  | .info => "info"
  | .warning => "warning"
  | .error => "error"

/-- The name of a severity. -/
def name : Severity → String
  | .info => "Info"
  | .warning => "Warning"
  | .error => "Error"

end Severity

/-- What a report is about. -/
inductive DiagnosticCode where
  | ambiguousMethodOverload
  | conflictingDirective
  | conflictingStrategy
  | conflictingTargetName
  | duplicateMapping
  | expressionOmission
  | incompatibleStrategyNullability
  | internalError
  | invalidDelegate
  | leftoverDestinationProperty
  | methodNotFound
  | misplacedDirective
  | missingDelegateResolution
  | noParameterlessConstructor
  | noPropertyMappings
  | nullabilityMismatch
  | parameterCollision
  | propertyPathInvalid
  | unclaimedSourceProperty
  | unknownIgnoredTarget
  | unresolvableProperty
  | unresolvedDirectiveType
  deriving DecidableEq, Repr, Inhabited

namespace DiagnosticCode

/-- Every code. -/
def all : List DiagnosticCode :=
  [.ambiguousMethodOverload, .conflictingDirective, .conflictingStrategy, .conflictingTargetName,
   .duplicateMapping, .expressionOmission, .incompatibleStrategyNullability, .internalError,
   .invalidDelegate, .leftoverDestinationProperty, .methodNotFound, .misplacedDirective,
   .missingDelegateResolution, .noParameterlessConstructor, .noPropertyMappings,
   .nullabilityMismatch, .parameterCollision, .propertyPathInvalid, .unclaimedSourceProperty,
   .unknownIgnoredTarget, .unresolvableProperty, .unresolvedDirectiveType]

/-- The stable text of a code. -/
def ident : DiagnosticCode → String
  | .ambiguousMethodOverload => "MF0301"
  | .conflictingDirective => "MF0203"
  | .conflictingStrategy => "MF0201"
  | .conflictingTargetName => "MF0104"
  | .duplicateMapping => "MF0006"
  | .expressionOmission => "MF0602"
  | .incompatibleStrategyNullability => "MF0202"
  | .internalError => "MF9000"
  | .invalidDelegate => "MF0502"
  | .leftoverDestinationProperty => "MF0101"
  | .methodNotFound => "MF0302"
  | .misplacedDirective => "MF0204"
  | .missingDelegateResolution => "MF0501"
  | .noParameterlessConstructor => "MF0001"
  | .noPropertyMappings => "MF0005"
  | .nullabilityMismatch => "MF0401"
  | .parameterCollision => "MF0303"
  | .propertyPathInvalid => "MF0105"
  | .unclaimedSourceProperty => "MF0102"
  | .unknownIgnoredTarget => "MF0103"
  | .unresolvableProperty => "MF0601"
  | .unresolvedDirectiveType => "MF0002"

/-- The name of a code. -/
def name : DiagnosticCode → String
  | .ambiguousMethodOverload => "AmbiguousMethodOverload"
  | .conflictingDirective => "ConflictingDirective"
  | .conflictingStrategy => "ConflictingStrategy"
  | .conflictingTargetName => "ConflictingTargetName"
  | .duplicateMapping => "DuplicateMapping"
  | .expressionOmission => "ExpressionOmission"
  | .incompatibleStrategyNullability => "IncompatibleStrategyNullability"
  | .internalError => "InternalError"
  | .invalidDelegate => "InvalidDelegate"
  | .leftoverDestinationProperty => "LeftoverDestinationProperty"
  | .methodNotFound => "MethodNotFound"
  | .misplacedDirective => "MisplacedDirective"
  | .missingDelegateResolution => "MissingDelegateResolution"
  | .noParameterlessConstructor => "NoParameterlessConstructor"
  | .noPropertyMappings => "NoPropertyMappings"
  | .nullabilityMismatch => "NullabilityMismatch"
  | .parameterCollision => "ParameterCollision"
  | .propertyPathInvalid => "PropertyPathInvalid"
  | .unclaimedSourceProperty => "UnclaimedSourceProperty"
  | .unknownIgnoredTarget => "UnknownIgnoredTarget"
  | .unresolvableProperty => "UnresolvableProperty"
  | .unresolvedDirectiveType => "UnresolvedDirectiveType"

/-- The severity that a report of the code has unless it says otherwise. -/
def severity : DiagnosticCode → Severity
  | .expressionOmission => .info
  | .misplacedDirective => .warning
  | _ => .error

/-- The code with a name or a stable text. -/
def ofText? (s : String) : Option DiagnosticCode := all.find? fun c => c.name == s || c.ident == s

/-- The list of codes misses none. -/
theorem mem_all (c : DiagnosticCode) : c ∈ all := by cases c <;> decide

end DiagnosticCode

/-! ## 2. Reports -/

/-- The place of a report: a type and perhaps a property of it. -/
structure Location where
  typePath : String
  property : Option String
  deriving DecidableEq, Repr, Inhabited

namespace Location

/-- A type as a place. -/
def ofType (path : String) : Location := ⟨path, none⟩

/-- A property as a place. -/
def ofProperty (path property : String) : Location := ⟨path, some property⟩

/-- The text of a place. -/
def text (l : Location) : String :=
  match l.property with
  | some p => l.typePath ++ "." ++ p
  | none => l.typePath

end Location

/-- A report. -/
structure Diagnostic where
  code : DiagnosticCode
  severity : Severity
  message : String
  location : Location
  deriving DecidableEq, Repr, Inhabited

namespace Diagnostic

/-- A report with the severity of its code. -/
def report (code : DiagnosticCode) (location : Location) (message : String) : Diagnostic :=
  ⟨code, code.severity, message, location⟩

/-- The report is about an error. -/
def isError (d : Diagnostic) : Bool := d.severity == .error

/-- The line of text of a report. -/
def text (d : Diagnostic) : String :=
  d.severity.word ++ " " ++ d.code.ident ++ ": " ++ d.message ++ " (" ++ d.location.text ++ ")"

/-- The JSON form of a report. -/
def toJson (d : Diagnostic) : Json :=
  .obj [("code", .str d.code.name), ("severity", .str d.severity.name), ("message", .str d.message),
    ("location", .obj [("type_path", .str d.location.typePath),
      ("property", Json.orNull .str d.location.property)])]

/-! ## 3. Lists of reports -/

/-- Some report is about an error. -/
def hasErrors (ds : List Diagnostic) : Bool := ds.any isError

/-- Some report has the code. -/
def hasCode (ds : List Diagnostic) (c : DiagnosticCode) : Bool := ds.any fun d => d.code == c

/-- The reports about errors. -/
def errors (ds : List Diagnostic) : List Diagnostic := ds.filter isError

@[simp] theorem hasErrors_nil : hasErrors [] = false := rfl

@[simp] theorem hasErrors_append (xs ys : List Diagnostic) :
    hasErrors (xs ++ ys) = (hasErrors xs || hasErrors ys) := by simp [hasErrors]

end Diagnostic

end TypeMapper

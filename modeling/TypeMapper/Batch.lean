import TypeMapper.Acceptance
import TypeMapper.Construction
import TypeMapper.EntryParameters
import TypeMapper.Resolution
/-!
# Batches

A batch is everything that one run finds out about the mappings that a schema declares: they are
discovered, built each on its own, resolved, given their entry parameters and checked.

* `Schema.candidates`: the declarations, with reports on those that name an unknown type.
* `Batch.discover`: the whole run.
-/

namespace TypeMapper

/-! ## 1. Declarations -/

/-- A declaration of a mapping. -/
structure Candidate where
  key : MappingKey
  index : Option UInt32
  declaredOn : String
  deriving DecidableEq, Repr, Inhabited

/-- The pair of types that a directive on a type declares a mapping for. -/
def declaredKey? (t : TypeDecl) : Directive → Option MappingKey
  | .mapTo d => some ⟨t.path, d⟩
  | .mapFrom s => some ⟨s, t.path⟩
  | _ => none

namespace Schema

/-- The types of a key that the schema does not know. -/
def missing (s : Schema) (key : MappingKey) : List String :=
  [key.source, key.destination].filter fun p => !s.hasType p

/-- The declaration of an entry, if it is one and its types are known. -/
def candidate? (s : Schema) (t : TypeDecl) (e : DirectiveEntry) : Option Candidate :=
  match declaredKey? t e.directive with
  | some key => if (s.missing key).isEmpty then some ⟨key, e.index, t.path⟩ else none
  | none => none

/-- The report on a declaration that names unknown types. -/
def candidateReport? (s : Schema) (t : TypeDecl) (e : DirectiveEntry) : Option Diagnostic :=
  match declaredKey? t e.directive with
  | some key =>
    if (s.missing key).isEmpty then none
    else some (Diagnostic.report .unresolvedDirectiveType (Location.ofType t.path)
      ("'" ++ e.directive.name ++ "' declares mapping " ++ key.text ++ " but '"
        ++ "', '".intercalate (s.missing key) ++ "' is not in the schema"))
  | none => none

/-- The declarations in the order of the types. -/
def candidates (s : Schema) : List Candidate :=
  s.types.toList.flatMap fun t => t.directives.filterMap (s.candidate? t)

/-- The reports on declarations that name unknown types. -/
def candidateReports (s : Schema) : List Diagnostic :=
  s.types.toList.flatMap fun t => t.directives.filterMap (s.candidateReport? t)

end Schema

/-! ## 2. Phases -/

namespace Arena

/-- Allocate the declared mappings in order; a second declaration of a pair is reported. -/
def declareAll : Arena → List Candidate → Arena × List Diagnostic
  | a, [] => (a, [])
  | a, c :: rest =>
    match a.allocate? c.key c.index c.declaredOn with
    | some (a, _) => declareAll a rest
    | none =>
      let (a, ds) := declareAll a rest
      (a, Diagnostic.report .duplicateMapping (Location.ofType c.declaredOn)
        ("mapping " ++ c.key.text ++ " is declared more than once") :: ds)

/-- A mapping as far as it can be built; an error becomes a report. -/
def buildOne (c : BuildContext) (id : MappingId) (m : Mapping) : Mapping :=
  match m.build c id with
  | .ok built => built
  | .error e => m.report [Diagnostic.report .internalError (Location.ofType m.source)
      ("internal error while building " ++ m.key.text ++ ": " ++ e.message)]

/-- Build every mapping. -/
def buildAll (schema : Schema) (config : Config) (a : Arena) : Arena :=
  a.transform (buildOne ⟨schema, config, a.keys⟩)

/-- Give every mapping its entry parameters. -/
def parameterize (a : Arena) : Arena :=
  a.transform fun id m =>
    let l := a.entryParameters id
    { m with entryParameters := l.parameters }.report l.reports

/-- Check every mapping. -/
def checkAll (config : Config) (a : Arena) : Arena :=
  a.transform fun _ m => m.report (m.check config)

end Arena

/-! ## 3. Batches -/

/-- The mappings of a run, the reports on none of them alone, and how resolution went. -/
structure Batch where
  arena : Arena
  diagnostics : List Diagnostic
  report : FixpointReport
  rejected : Nat

namespace Batch

/-- Find, build, resolve and check the mappings of a schema. -/
def discover (schema : Schema) (config : Config) : Batch :=
  let (declared, duplicates) := Arena.empty.declareAll schema.candidates
  let (resolved, report) := (declared.buildAll schema config).resolve
  let (arena, rejected) := (resolved.parameterize.checkAll config).rejectDelegates
  ⟨arena, schema.candidateReports ++ duplicates, report, rejected⟩

/-- The ids of the accepted mappings. -/
def validIds (b : Batch) : List MappingId :=
  (b.arena.entries.filter fun p => p.2.isValid).map Prod.fst

/-- The reports of the batch and then of each mapping. -/
def allDiagnostics (b : Batch) : List Diagnostic :=
  b.diagnostics ++ b.arena.mappings.flatMap Mapping.diagnostics

end Batch

end TypeMapper

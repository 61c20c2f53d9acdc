import TypeMapper.Directive.Effective
import TypeMapper.Mapping.Strategy
import TypeMapper.PropertyPath
/-!
# Matching

The properties of two types are paired for one mapping. A source property claims the destination
property of its (perhaps changed) name, a path directive claims its target; a destination with one
claim makes a pair, one without a claim is left over, one with more is reported.

* `Claim`: a chain of source properties that wants a destination.
* `Sides`: both property lists and the directives on them.
* `matchProperties`: the pairs, the names that remain on both sides, and the reports.
-/

namespace TypeMapper

/-! ## 1. Results -/

/-- A chain of source properties and the destination it fills. -/
structure PropertyMatch where
  source : List Property
  destination : Property
  directives : PropertyDirectives
  deriving DecidableEq, Repr, Inhabited

/-- A chain of source properties that wants the destination of a name. -/
structure Claim where
  target : String
  source : List Property
  directives : PropertyDirectives
  deriving DecidableEq, Repr, Inhabited

/-- The pairs of a mapping and the names that are in none. -/
structure Matching where
  pairs : List PropertyMatch
  /-- Destinations that nothing claims. -/
  leftovers : List String
  /-- Sources that claim nothing. -/
  unclaimed : List String
  /-- Sources that are ignored, or whose target is. -/
  ignored : List String
  typeDirectives : TypeDirectives
  reports : List Diagnostic
  deriving DecidableEq, Repr, Inhabited

/-! ## 2. Both sides -/

namespace Schema

/-- The properties of a type that can be read. -/
def readable (s : Schema) (path : String) : List Property :=
  (s.flattened path).filter fun p => p.access.readable

/-- The properties of a type that can be written. -/
def settable (s : Schema) (path : String) : List Property :=
  (s.flattened path).filter fun p => p.access.settable

/-- The settings of the type at a path, with what was reported. -/
def typeDirectives (s : Schema) (path : String) (index : Option UInt32) :
    TypeDirectives × List Diagnostic :=
  match s.type? path with
  | some t => t.effective index
  | none => (TypeDirectives.none, [])

end Schema

/-- The two sides of a mapping with the directives that count for it. -/
structure Sides where
  key : MappingKey
  sources : List (Property × PropertyDirectives)
  destinations : List (Property × PropertyDirectives)
  typeDirectives : TypeDirectives
  deriving Repr, Inhabited

/-- A property with its settings. -/
def withDirectives (owner : String) (index : Option UInt32) (p : Property) :
    Property × PropertyDirectives := (p, (p.effective owner index).1)

/-- The sides of a mapping. -/
def Sides.ofSchema (s : Schema) (key : MappingKey) (index : Option UInt32) : Sides where
  key := key
  sources := (s.readable key.source).map (withDirectives key.source index)
  destinations := (s.settable key.destination).map (withDirectives key.destination index)
  typeDirectives := (TypeDirectives.none.merge (s.typeDirectives key.source index).1).merge
    (s.typeDirectives key.destination index).1

namespace Sides

/-- The names of the destinations. -/
def targets (s : Sides) : List String := s.destinations.map fun d => d.1.name

/-- A destination has the name. -/
def hasTarget (s : Sides) (name : String) : Bool := s.targets.contains name

/-- The destinations of the name are ignored. -/
def isIgnored (s : Sides) (name : String) : Bool :=
  (s.typeDirectives.ignoredTargets.contains name && s.hasTarget name)
    || s.destinations.any fun d => d.1.name == name && d.2.ignore

/-- More than one destination has the name. -/
def isDuplicated (s : Sides) (name : String) : Bool := decide (1 < s.targets.count name)

/-! ## 3. Claims -/

/-- The path directives whose target can be filled. -/
def openPaths (s : Sides) : List PathDirective :=
  s.typeDirectives.paths.filter fun p => !s.isIgnored p.target && s.hasTarget p.target

/-- The claim of a path directive, if its path can be walked. -/
def pathClaim? (schema : Schema) (s : Sides) (p : PathDirective) : Option Claim :=
  match schema.walk s.key.source p.path with
  | .ok hops => some ⟨p.target, hops, PropertyDirectives.none⟩
  | .error _ => none

/-- The claims of the path directives. -/
def pathClaims (schema : Schema) (s : Sides) : List Claim :=
  s.openPaths.filterMap (pathClaim? schema s)

/-- The names of the properties at which the claimed paths start. -/
def pathRoots (schema : Schema) (s : Sides) : List String :=
  (s.pathClaims schema).filterMap fun c => c.source.head?.map Property.name

/-- What becomes of a source property. -/
inductive Fate where
  | ignored
  | claims (target : String)
  | root
  | unclaimed
  deriving DecidableEq, Repr

/-- The fate of a source property, in this order of rank. -/
def fate (schema : Schema) (s : Sides) (p : Property × PropertyDirectives) : Fate :=
  let target := p.2.targetName p.1
  if p.2.ignore || s.isIgnored target then .ignored
  else if s.hasTarget target then .claims target
  else if (s.pathRoots schema).contains p.1.name then .root
  else .unclaimed

/-- The claim of a source property. -/
def sourceClaim? (schema : Schema) (s : Sides) (p : Property × PropertyDirectives) :
    Option Claim :=
  match s.fate schema p with
  | .claims target => some ⟨target, [p.1], p.2⟩
  | _ => none

/-- All claims: those of the paths before those of the source properties. -/
def claims (schema : Schema) (s : Sides) : List Claim :=
  s.pathClaims schema ++ s.sources.filterMap (sourceClaim? schema s)

/-- The claims on the destination of a name. -/
def claimers (schema : Schema) (s : Sides) (name : String) : List Claim :=
  (s.claims schema).filter fun c => c.target == name

/-- The names of source properties of a fate. -/
def sourcesOf (schema : Schema) (s : Sides) (f : Fate) : List String :=
  (s.sources.filter fun p => s.fate schema p == f).map fun p => p.1.name

/-! ## 4. Pairs -/

/-- The destinations that take part: neither ignored nor declared twice. -/
def openDestinations (s : Sides) : List (Property × PropertyDirectives) :=
  s.destinations.filter fun d => !s.isIgnored d.1.name && !s.isDuplicated d.1.name

/-- The pair of a destination with its only claim; null may also be ignored on the destination. -/
def pairOf (d : Property × PropertyDirectives) (c : Claim) : PropertyMatch :=
  ⟨c.source, d.1, { c.directives with ignoreNull := c.directives.ignoreNull || d.2.ignoreNull }⟩

/-- The pair of a destination, if there is exactly one claim on it. -/
def pair? (schema : Schema) (s : Sides) (d : Property × PropertyDirectives) :
    Option PropertyMatch :=
  match s.claimers schema d.1.name with
  | [c] => some (pairOf d c)
  | _ => none

/-- The pairs in the order of the destinations. -/
def pairs (schema : Schema) (s : Sides) : List PropertyMatch :=
  s.openDestinations.filterMap (s.pair? schema)

/-- The destinations that nothing claims. -/
def leftovers (schema : Schema) (s : Sides) : List String :=
  (s.openDestinations.filter fun d => (s.claimers schema d.1.name).isEmpty).map fun d => d.1.name

/-! ## 5. Reports -/

/-- Ignored names that no destination has. -/
def ignoredReports (s : Sides) : List Diagnostic :=
  (s.typeDirectives.ignoredTargets.filter fun n => !s.hasTarget n).map fun n =>
    Diagnostic.report .unknownIgnoredTarget (Location.ofType s.key.source)
      ("ignored target '" ++ n ++ "' does not exist on '" ++ s.key.destination ++ "'")

/-- The names that occur in a list of names a second time, each once. -/
def repeated : List String → List String → List String → List String
  | _, _, [] => []
  | seen, told, n :: rest =>
    if seen.contains n then
      if told.contains n then repeated seen told rest else n :: repeated seen (n :: told) rest
    else repeated (n :: seen) told rest

/-- Names that more than one destination has. -/
def duplicateReports (s : Sides) : List Diagnostic :=
  (repeated [] [] s.targets).map fun n =>
    Diagnostic.report .conflictingTargetName (Location.ofProperty s.key.destination n)
      ("more than one destination property is named '" ++ n ++ "'")

/-- The report on a path directive. -/
def pathReport? (schema : Schema) (s : Sides) (p : PathDirective) : Option Diagnostic :=
  let report (message : String) : Option Diagnostic :=
    some (Diagnostic.report .propertyPathInvalid (Location.ofType s.key.source) message)
  if s.isIgnored p.target then none
  else if s.hasTarget p.target then
    match schema.walk s.key.source p.path with
    | .ok _ => none
    | .error e => report ("invalid source path '" ++ p.path ++ "': " ++ e.message)
  else report ("path target '" ++ p.target ++ "' does not exist on '" ++ s.key.destination ++ "'")

/-- The report on a destination that several sources claim. -/
def conflictReport? (schema : Schema) (s : Sides) (d : Property × PropertyDirectives) :
    Option Diagnostic :=
  let cs := s.claimers schema d.1.name
  if 1 < cs.length then
    let names := cs.map fun c => ".".intercalate (c.source.map Property.name)
    some (Diagnostic.report .conflictingTargetName
      (Location.ofProperty s.key.destination d.1.name)
      ("destination property '" ++ d.1.name ++ "' is claimed by more than one source ("
        ++ ", ".intercalate names ++ ")"))
  else none

end Sides

/-- The reports on the directives of properties. -/
def directiveReports (owner : String) (index : Option UInt32) (ps : List Property) :
    List Diagnostic := ps.flatMap fun p => (p.effective owner index).2

/-- Pair the properties of two types for the mapping of an index. -/
def matchProperties (schema : Schema) (key : MappingKey) (index : Option UInt32) : Matching :=
  let s := Sides.ofSchema schema key index
  { pairs := s.pairs schema
    leftovers := s.leftovers schema
    unclaimed := s.sourcesOf schema .unclaimed
    ignored := s.sourcesOf schema .ignored
    typeDirectives := s.typeDirectives
    reports := (schema.typeDirectives key.source index).2
      ++ (schema.typeDirectives key.destination index).2
      ++ s.ignoredReports
      ++ directiveReports key.destination index (schema.settable key.destination)
      ++ s.duplicateReports
      ++ s.typeDirectives.paths.filterMap (s.pathReport? schema)
      ++ directiveReports key.source index (schema.readable key.source)
      ++ s.openDestinations.filterMap (s.conflictReport? schema) }

end TypeMapper

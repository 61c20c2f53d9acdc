import TypeMapper.Diagnostic
import TypeMapper.Schema.Declaration
import TypeMapper.Text.Distinct
/-!
# Effective directives

What the entries on a property or a type mean for the mapping of one index. Entries without an
index are read first, so that those of the index override them; two of one rank that contradict
each other are reported and the first stays.

* `Property.effective`: the settings of a property, with what was reported.
* `TypeDecl.effective`: the settings of a type; `TypeDirectives.merge` joins those of both ends.
-/

namespace TypeMapper

/-! ## 1. Applicable entries -/

/-- The entries that are meant for an index, those without an index first. -/
def applicable (entries : List DirectiveEntry) (index : Option UInt32) : List DirectiveEntry :=
  let meant := entries.filter fun e => e.appliesTo index
  meant.filter (fun e => e.index.isNone) ++ meant.filter (fun e => e.index.isSome)

/-! ## 2. Settings of a property -/

/-- A conversion that a directive asks for. -/
inductive Conversion where
  | mapper (source destination : String)
  | method (name : String)
  | resolver (path : String)
  deriving DecidableEq, Repr, Inhabited

/-- The conversion that a directive asks for. -/
def Directive.conversion? : Directive → Option Conversion
  | .useMapper s d => some (.mapper s d)
  | .useMethod n => some (.method n)
  | .useResolver r => some (.resolver r)
  | _ => none

/-- What the directives on a property come to. -/
structure PropertyDirectives where
  ignore : Bool
  rename : Option String
  conversion : Option Conversion
  completeCollection : Bool
  ignoreNull : Bool
  maxRecursionDepth : Option UInt32
  deriving DecidableEq, Repr, Inhabited

namespace PropertyDirectives

/-- No directive at all. -/
def none : PropertyDirectives := ⟨false, .none, .none, false, false, .none⟩

/-- The destination property that a property claims. -/
def targetName (d : PropertyDirectives) (p : Property) : String := d.rename.getD p.name

end PropertyDirectives

/-- Settings in the making; a rename and a conversion remember whether an index gave them. -/
structure PropertyReading where
  settings : PropertyDirectives
  rename : Option (String × Bool)
  conversion : Option (Conversion × Bool)
  reports : List Diagnostic
  deriving Repr, Inhabited

/-- A setting contradicts one of the same rank. -/
def contradicts {α : Type} [DecidableEq α] (old : Option (α × Bool)) (new : α) (indexed : Bool) :
    Option α :=
  match old with
  | some (x, rank) => if rank = indexed ∧ x ≠ new then some x else none
  | none => none

/-- Read one more entry of a property. -/
def readEntry (place : Location) (r : PropertyReading) (e : DirectiveEntry) : PropertyReading :=
  let indexed := e.index.isSome
  let report (code : DiagnosticCode) (message : String) : PropertyReading :=
    { r with reports := r.reports ++ [Diagnostic.report code place message] }
  match e.directive with
  | .ignore => { r with settings := { r.settings with ignore := true } }
  | .ignoreNullIncompatibility => { r with settings := { r.settings with ignoreNull := true } }
  | .mapCompleteCollection => { r with settings := { r.settings with completeCollection := true } }
  | .maxRecursionDepth depth =>
    { r with settings := { r.settings with maxRecursionDepth := some depth } }
  | .renameTo name =>
    match contradicts r.rename name indexed with
    | some old => report .conflictingDirective
        ("property is renamed to both '" ++ old ++ "' and '" ++ name ++ "'")
    | none => { r with rename := some (name, indexed) }
  | d =>
    match d.conversion? with
    | some c =>
      match contradicts r.conversion c indexed with
      | some _ => report .conflictingStrategy
          ("property declares more than one conversion strategy ('" ++ d.name ++ "' conflicts)")
      | none => { r with conversion := some (c, indexed) }
    | none => report .misplacedDirective
        ("type-level directive '" ++ d.name ++ "' on a property is ignored")

/-- The settings of a property of `owner` for an index, with what was reported. -/
def Property.effective (p : Property) (owner : String) (index : Option UInt32) :
    PropertyDirectives × List Diagnostic :=
  let place := Location.ofProperty owner p.name
  let r := (applicable p.directives index).foldl (readEntry place)
    ⟨PropertyDirectives.none, none, none, []⟩
  (if r.settings.ignore then r.settings
    else { r.settings with
      rename := r.rename.map Prod.fst
      conversion := r.conversion.map Prod.fst }, r.reports)

/-! ## 3. Settings of a type -/

/-- A chain of source properties for a destination property. -/
structure PathDirective where
  path : String
  target : String
  deriving DecidableEq, Repr, Inhabited

/-- What the directives on a type come to; the ignored names are in order. -/
structure TypeDirectives where
  ignoredTargets : List String
  paths : List PathDirective
  maxRecursionDepth : Option UInt32
  deriving DecidableEq, Repr, Inhabited

namespace TypeDirectives

/-- No directive at all. -/
def none : TypeDirectives := ⟨[], [], .none⟩

/-- Ignore one more destination name. -/
def ignoring (d : TypeDirectives) (names : List String) : TypeDirectives :=
  { d with ignoredTargets := names.foldl (fun acc n => Text.insert n acc) d.ignoredTargets }

/-- Fill one more destination by a path, unless that is known. -/
def withPath (d : TypeDirectives) (p : PathDirective) : TypeDirectives :=
  if d.paths.contains p then d else { d with paths := d.paths ++ [p] }

/-- The settings of both ends; a depth of the first counts before one of the second. -/
def merge (d e : TypeDirectives) : TypeDirectives :=
  let joined := e.paths.foldl withPath (d.ignoring e.ignoredTargets)
  { joined with maxRecursionDepth := d.maxRecursionDepth.or e.maxRecursionDepth }

end TypeDirectives

/-- Read one more entry of a type. -/
def readTypeEntry (place : Location) (r : TypeDirectives × List Diagnostic) (e : DirectiveEntry) :
    TypeDirectives × List Diagnostic :=
  match e.directive with
  | .ignoreTargetNames names => (r.1.ignoring names, r.2)
  | .mapPath path target => (r.1.withPath ⟨path, target⟩, r.2)
  | .maxRecursionDepth depth => ({ r.1 with maxRecursionDepth := some depth }, r.2)
  | .mapFrom _ => r
  | .mapTo _ => r
  | d => (r.1, r.2 ++ [Diagnostic.report .misplacedDirective place
      ("property-level directive '" ++ d.name ++ "' on a type is ignored")])

/-- The settings of a type for an index, with what was reported. -/
def TypeDecl.effective (t : TypeDecl) (index : Option UInt32) :
    TypeDirectives × List Diagnostic :=
  (applicable t.directives index).foldl (readTypeEntry (Location.ofType t.path))
    (TypeDirectives.none, [])

end TypeMapper

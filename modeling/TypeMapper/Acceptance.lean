import TypeMapper.Config
import TypeMapper.Mapping.Arena
/-!
# Acceptance of mappings

After resolution each mapping is checked on its own, and then mappings that delegate to a rejected
one are rejected themselves, until no more are.

* `Arena.check`: the reports on one mapping.
* `Arena.rejectDelegates`: the arena without acceptance of mappings that reach a rejected one, and
  how many were rejected.
-/

namespace TypeMapper

/-! ## 1. One mapping -/

namespace Mapping

/-- Names that are in no pair. -/
def nameReports (m : Mapping) : List Diagnostic :=
  (m.leftovers.map fun n =>
    Diagnostic.report .leftoverDestinationProperty (Location.ofProperty m.destination n)
      ("destination property '" ++ n ++ "' is not mapped from '" ++ m.source ++ "'"))
  ++ m.unclaimed.map fun n =>
    Diagnostic.report .unclaimedSourceProperty (Location.ofProperty m.source n)
      ("source property '" ++ n ++ "' has no counterpart on '" ++ m.destination
        ++ "' and is not ignored")

/-- A mapping without properties; one that lost them to errors is not reported again. -/
def emptyReports (m : Mapping) : List Diagnostic :=
  if m.properties.isEmpty && m.isValid && m.nameReports.isEmpty then
    [Diagnostic.report .noPropertyMappings (Location.ofType m.destination)
      ("mapping " ++ m.key.text ++ " maps no properties")]
  else []

/-- Calls without a target. -/
def unboundReports (m : Mapping) (p : PropertyMapping) : List Diagnostic :=
  (p.delegates.filter fun c => !c.isBound).map fun c =>
    Diagnostic.report .missingDelegateResolution
      (Location.ofProperty m.destination p.destination.name)
      ("missing mapping information for delegate " ++ c.key.text)

/-- A property that the single expression leaves at its default. -/
def omissionReports (c : Config) (m : Mapping) (p : PropertyMapping) : List Diagnostic :=
  if c.expressionVariant && p.needsHelper then
    [Diagnostic.report .expressionOmission (Location.ofProperty m.destination p.destination.name)
      ("'" ++ p.destination.name
        ++ "' uses a method or resolver and is left at its default in the expression variant")]
  else []

/-- The reports on a mapping after resolution. -/
def check (c : Config) (m : Mapping) : List Diagnostic :=
  m.nameReports ++ m.emptyReports
    ++ m.properties.flatMap fun p => m.unboundReports p ++ m.omissionReports c p

end Mapping

/-! ## 2. Rejection through delegates -/

namespace Arena

/-- The reports on the mapping of an id after resolution. -/
def check (a : Arena) (id : MappingId) (c : Config) : List Diagnostic :=
  ((a.get? id).map (Mapping.check c)).getD []

/-- The first mapping that an accepted mapping delegates to and that is rejected. -/
def rejectedTarget? (a : Arena) (id : MappingId) (m : Mapping) : Option Mapping :=
  if m.isValid then
    (m.targets.filter (· != id)).findSome? fun t => (a.get? t).filter fun m => !m.isValid
  else none

/-- The report on a mapping that delegates to a rejected one. -/
def rejection (m target : Mapping) : Diagnostic :=
  Diagnostic.report .invalidDelegate (Location.ofType m.destination)
    ("delegate mapping " ++ target.key.text ++ " is invalid")

/-- Reject a mapping if it delegates to a rejected one. -/
def rejectOne (a : Arena) (id : MappingId) (m : Mapping) : Mapping :=
  match a.rejectedTarget? id m with
  | some t => m.report [rejection m t]
  | none => m

/-- The number of mappings that a round rejects. -/
def rejectCount (a : Arena) : Nat :=
  a.entries.countP fun p => (a.rejectedTarget? p.1 p.2).isSome

/-- Rounds until one rejects nothing, at most `fuel`; with the number of rejected mappings. -/
def rejectRounds : Nat → Arena → Arena × Nat
  | 0, a => (a, 0)
  | fuel + 1, a =>
    if a.rejectCount = 0 then (a, 0)
    else
      let (b, n) := rejectRounds fuel (a.transform a.rejectOne)
      (b, n + a.rejectCount)

/-- Reject what reaches a rejected mapping; each round but the last rejects one. -/
def rejectDelegates (a : Arena) : Arena × Nat := rejectRounds (a.size + 1) a

end Arena

end TypeMapper

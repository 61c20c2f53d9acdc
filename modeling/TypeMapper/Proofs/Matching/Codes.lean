import TypeMapper.Matching
/-!
# What matching reports

Each step that reports something has codes of its own, so a report can be told from those of other
steps by its code. The codes are said here once, step by step: what a step never reports is read off
its list.

* `Diagnostic.CodesIn`: all reports have codes of a list.
* `Property.codes_effective`, `Schema.codes_typeDirectives`: the directives on a property and on a
  type.
* `matchProperties_codes`: a whole matching.
-/

namespace TypeMapper

/-! ## 1. Codes of reports -/

/-- Every report has one of the codes. -/
def Diagnostic.CodesIn (codes : List DiagnosticCode) (ds : List Diagnostic) : Prop :=
  ∀ d ∈ ds, d.code ∈ codes

namespace Diagnostic.CodesIn

variable {codes more : List DiagnosticCode} {ds es : List Diagnostic}

theorem nil : CodesIn codes [] := nofun

theorem mono (h : CodesIn codes ds) (hsub : codes ⊆ more) : CodesIn more ds :=
  fun d hd => hsub (h d hd)

theorem append (hd : CodesIn codes ds) (he : CodesIn codes es) : CodesIn codes (ds ++ es) :=
  List.forall_mem_append.mpr ⟨hd, he⟩

theorem report {code : DiagnosticCode} (h : code ∈ codes) (place : Location) (message : String) :
    CodesIn codes [Diagnostic.report code place message] := List.forall_mem_singleton.mpr h

/-- One report behind others. -/
theorem push (h : CodesIn codes ds) {code : DiagnosticCode} (hcode : code ∈ codes)
    (place : Location) (message : String) :
    CodesIn codes (ds ++ [Diagnostic.report code place message]) :=
  h.append (.report hcode place message)

theorem flatMap {α : Type} {xs : List α} {f : α → List Diagnostic}
    (h : ∀ x ∈ xs, CodesIn codes (f x)) : CodesIn codes (xs.flatMap f) := by
  intro d hd
  obtain ⟨x, hx, hd⟩ := List.mem_flatMap.mp hd
  exact h x hx d hd

theorem map {α : Type} {xs : List α} {f : α → Diagnostic} (h : ∀ x ∈ xs, (f x).code ∈ codes) :
    CodesIn codes (xs.map f) := by
  intro d hd
  obtain ⟨x, hx, rfl⟩ := List.mem_map.mp hd
  exact h x hx

theorem filterMap {α : Type} {xs : List α} {f : α → Option Diagnostic}
    (h : ∀ x ∈ xs, ∀ d ∈ f x, d.code ∈ codes) : CodesIn codes (xs.filterMap f) := by
  intro d hd
  obtain ⟨x, hx, hd⟩ := List.mem_filterMap.mp hd
  exact h x hx d hd

/-- Nothing is reported under a code that is not on the list. -/
theorem filter_eq_nil (h : CodesIn codes ds) {p : Diagnostic → Bool}
    (hp : ∀ d, p d = true → d.code ∉ codes) : ds.filter p = [] :=
  List.filter_eq_nil_iff.mpr fun d hd htrue => hp d htrue (h d hd)

end Diagnostic.CodesIn

open Diagnostic

/-! ## 2. Directives -/

/-- What is reported on the directives of a property. -/
def propertyDirectiveCodes : List DiagnosticCode :=
  [.conflictingDirective, .conflictingStrategy, .misplacedDirective]

theorem readEntry_codes (place : Location) (r : PropertyReading) (e : DirectiveEntry)
    (h : CodesIn propertyDirectiveCodes r.reports) :
    CodesIn propertyDirectiveCodes (readEntry place r e).reports := by
  obtain ⟨d, index⟩ := e
  cases d
  case renameTo | useMapper | useMethod | useResolver =>
    unfold readEntry
    dsimp only [Directive.conversion?]
    split
    · exact h.push (by decide) _ _
    · exact h
  case ignoreTargetNames | mapFrom | mapPath | mapTo => exact h.push (by decide) _ _
  all_goals exact h

theorem Property.codes_effective (p : Property) (owner : String) (index : Option UInt32) :
    CodesIn propertyDirectiveCodes (p.effective owner index).2 :=
  List.foldlRecOn (motive := fun r : PropertyReading => CodesIn propertyDirectiveCodes r.reports)
    (applicable p.directives index) (readEntry (Location.ofProperty owner p.name)) .nil
    fun r h e _ => readEntry_codes _ r e h

theorem directiveReports_codes (owner : String) (index : Option UInt32) (ps : List Property) :
    CodesIn propertyDirectiveCodes (directiveReports owner index ps) :=
  .flatMap fun p _ => p.codes_effective owner index

theorem readTypeEntry_codes (place : Location) (r : TypeDirectives × List Diagnostic)
    (e : DirectiveEntry) (h : CodesIn [.misplacedDirective] r.2) :
    CodesIn [.misplacedDirective] (readTypeEntry place r e).2 := by
  obtain ⟨d, index⟩ := e
  cases d
  case ignoreTargetNames | mapFrom | mapPath | mapTo | maxRecursionDepth => exact h
  all_goals exact h.push (List.mem_singleton_self _) _ _

theorem Schema.codes_typeDirectives (s : Schema) (path : String) (index : Option UInt32) :
    CodesIn [.misplacedDirective] (s.typeDirectives path index).2 := by
  unfold typeDirectives
  split
  · exact List.foldlRecOn
      (motive := fun r : TypeDirectives × List Diagnostic => CodesIn [.misplacedDirective] r.2) _ _
      .nil fun r h e _ => readTypeEntry_codes _ r e h
  · exact .nil

/-! ## 3. Matching -/

namespace Sides

theorem ignoredReports_codes (s : Sides) : CodesIn [.unknownIgnoredTarget] s.ignoredReports :=
  .map fun _ _ => List.mem_singleton_self _

theorem duplicateReports_codes (s : Sides) : CodesIn [.conflictingTargetName] s.duplicateReports :=
  .map fun _ _ => List.mem_singleton_self _

theorem pathReports_codes (s : Sides) (schema : Schema) (ps : List PathDirective) :
    CodesIn [.propertyPathInvalid] (ps.filterMap (s.pathReport? schema)) := by
  refine .filterMap fun p _ d hd => ?_
  unfold pathReport? at hd
  split at hd
  · cases hd
  · split at hd
    · split at hd
      · cases hd
      · exact Option.some.inj hd ▸ List.mem_singleton_self _
    · exact Option.some.inj hd ▸ List.mem_singleton_self _

theorem conflictReports_codes (s : Sides) (schema : Schema)
    (ds : List (Property × PropertyDirectives)) :
    CodesIn [.conflictingTargetName] (ds.filterMap (s.conflictReport? schema)) := by
  refine .filterMap fun p _ d hd => ?_
  unfold conflictReport? at hd
  dsimp only at hd
  split at hd
  · exact Option.some.inj hd ▸ List.mem_singleton_self _
  · cases hd

end Sides

/-- What a matching reports. -/
def matchingCodes : List DiagnosticCode :=
  propertyDirectiveCodes ++ [.unknownIgnoredTarget, .conflictingTargetName, .propertyPathInvalid]

/-- **A matching reports** on directives, on ignored and shared names, on paths and on claims. -/
theorem matchProperties_codes (s : Schema) (key : MappingKey) (index : Option UInt32) :
    CodesIn matchingCodes (matchProperties s key index).reports := by
  have hproperty (owner : String) (ps : List Property) :
      CodesIn matchingCodes (directiveReports owner index ps) :=
    (directiveReports_codes owner index ps).mono (by decide)
  have htype (path : String) : CodesIn matchingCodes (s.typeDirectives path index).2 :=
    (s.codes_typeDirectives path index).mono (by decide)
  refine .append (.append (.append (.append (.append (.append (.append ?_ ?_) ?_) ?_) ?_) ?_) ?_) ?_
  · exact htype key.source
  · exact htype key.destination
  · exact (Sides.ignoredReports_codes _).mono (by decide)
  · exact hproperty _ _
  · exact (Sides.duplicateReports_codes _).mono (by decide)
  · exact (Sides.pathReports_codes _ s _).mono (by decide)
  · exact hproperty _ _
  · exact (Sides.conflictReports_codes _ s _).mono (by decide)

end TypeMapper

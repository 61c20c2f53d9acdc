import TypeMapper.Construction
import TypeMapper.Proofs.Matching.Codes
/-!
# What construction reports

A property that cannot be made is reported, by one of a few codes: that values do not convert, that
an absent value has no place to go, that a directive names nothing or too much. No other code comes
out of construction, and an error of the generator itself is none of them.

* `constructionCodes`: the codes; `Attempt.Tells`: the JUDGEMENT that an attempt reports no others.
* `PropertyBuilder.plan_tells`, `hopPolicies_tells`: plans and chains, function by function.
* `Mapping.codes_buildFrom`: a whole mapping.
-/

namespace TypeMapper

open Diagnostic

/-- What the construction of properties reports. -/
def constructionCodes : List DiagnosticCode :=
  [.unresolvableProperty, .incompatibleStrategyNullability, .nullabilityMismatch, .methodNotFound,
   .ambiguousMethodOverload, .conflictingStrategy, .unresolvedDirectiveType]

/-! ## 1. The judgement -/

namespace Attempt

variable {α β : Type} {codes : List DiagnosticCode}

/-- What an attempt reports, if it does, has one of the codes. -/
def Tells (codes : List DiagnosticCode) (x : Attempt α) : Prop := CodesIn codes x.reports

theorem tells_ok (a : α) : Tells codes (.ok a) := .nil

theorem tells_fail {code : DiagnosticCode} (h : code ∈ codes) (place : Location)
    (message : String) : Tells codes (fail code place message : Attempt α) :=
  .report h place message

theorem Tells.bind {x : Attempt α} {f : α → Attempt β} (hx : Tells codes x)
    (hf : ∀ a, Tells codes (f a)) : Tells codes (x >>= f) := by
  cases x with
  | ok a => exact hf a
  | error ds => exact hx

theorem Tells.map {x : Attempt α} (hx : Tells codes x) (f : α → β) : Tells codes (x.map f) := by
  cases x with
  | ok a => exact .nil
  | error ds => exact hx

theorem Tells.both {x : Attempt α} {y : Attempt β} (hx : Tells codes x) (hy : Tells codes y) :
    Tells codes (both x y) := by
  cases x with
  | ok a =>
      cases y with
      | ok b => exact .nil
      | error es => exact hy
  | error ds =>
      cases y with
      | ok b => exact hx
      | error es => exact CodesIn.append hx hy

theorem Tells.all {xs : List (Attempt α)} (h : ∀ x ∈ xs, Tells codes x) : Tells codes (all xs) := by
  induction xs with
  | nil => exact .nil
  | cons x xs ih =>
      have hrest := ih fun y hy => h y (List.mem_cons_of_mem x hy)
      exact ((h x List.mem_cons_self).both hrest).map _

end Attempt

open Attempt

/-! ## 2. Slots -/

namespace PropertyBuilder

variable (b : PropertyBuilder) (h : Helpers) (source destination : TypeRef)

theorem fail_tells {α : Type} {code : DiagnosticCode} (hcode : code ∈ constructionCodes)
    (message : String) : Tells constructionCodes (b.fail code message : Attempt α) :=
  tells_fail hcode b.place message

theorem checkOutput_tells (s : Strategy) :
    Tells constructionCodes (b.checkOutput s destination) := by
  unfold checkOutput
  split
  · exact tells_ok ()
  · split
    · exact b.fail_tells (by decide) _
    · split
      · exact b.fail_tells (by decide) _
      · exact tells_ok ()

theorem slotStrategy_tells : Tells constructionCodes (b.slotStrategy source destination) := by
  unfold slotStrategy
  split
  · exact tells_ok _
  · split
    · exact tells_ok _
    · exact b.fail_tells (by decide) _

theorem slotPolicy_tells (slot : Slot) :
    Tells constructionCodes (b.slotPolicy slot source destination) := by
  unfold slotPolicy
  split
  · split
    · exact tells_ok _
    · split
      · exact tells_ok _
      · exact b.fail_tells (by decide) _
  · split <;> exact tells_ok _

theorem slotPolicy?_tells (slot : Slot) (strategy : Option Strategy) :
    Tells constructionCodes (b.slotPolicy? slot strategy source destination) := by
  unfold slotPolicy?
  split
  · exact tells_ok _
  · split
    · exact tells_ok _
    · exact (b.slotPolicy_tells source destination slot).map _

/-- **A slot** is refused for its strategy or for its absent values. -/
theorem element_tells (slot : Slot) (given : Option Strategy) :
    Tells constructionCodes (b.element slot given source destination) := by
  have hchecked (s : Strategy) : Tells constructionCodes (do
      b.checkOutput s destination
      let policy ← b.slotPolicy? slot (some s) source destination
      return (⟨source, destination, b.schema.isByValue source, some s, policy⟩ : ElementMapping)) :=
    (b.checkOutput_tells destination s).bind fun _ =>
      (b.slotPolicy?_tells source destination slot _).bind fun _ => tells_ok _
  unfold element
  cases given with
  | some s => exact hchecked s
  | none =>
      refine (b.slotStrategy_tells source destination).bind fun strategy => ?_
      cases strategy with
      | some s => exact hchecked s
      | none => exact (b.slotPolicy?_tells source destination slot none).bind fun _ => tells_ok _

/-- **A container** is refused for its slots, or because it has none to be mapped one by one. -/
theorem shape_tells (given : Option Strategy) :
    Tells constructionCodes (b.shape given source destination) := by
  unfold shape
  split
  · exact (b.element_tells _ _ .collection given).map _
  · exact ((b.element_tells _ _ .map none).both (b.element_tells _ _ .map given)).map _
  · split
    · refine (Tells.all fun x hx => ?_).map _
      rw [← List.map_uncurry_zip_eq_zipWith] at hx
      obtain ⟨p, -, rfl⟩ := List.mem_map.mp hx
      exact b.element_tells p.1 p.2 .tuple none
    · exact b.fail_tells (by decide) _
  · exact b.fail_tells (by decide) _

/-! ## 3. Plans -/

theorem structural_tells : Tells constructionCodes (b.structural source destination) := by
  unfold structural
  split
  · exact (b.shape_tells source destination none).map _
  · split
    · exact tells_ok _
    · split
      · exact tells_ok _
      · exact b.fail_tells (by decide) _

theorem findMethod_tells (name : String) :
    Tells constructionCodes (b.findMethod h name source destination).1 := by
  unfold findMethod
  dsimp only
  split
  · exact b.fail_tells (by decide) _
  · split
    · exact b.fail_tells (by decide) _
    · exact tells_ok _
    · exact b.fail_tells (by decide) _

theorem checkHelper_tells (c : Conversion) :
    Tells constructionCodes (b.checkHelper c source destination) := by
  unfold checkHelper
  split
  · exact tells_ok _
  · dsimp only
    split
    · exact b.fail_tells (by decide) _
    · exact tells_ok _

theorem explicit_tells (c : Conversion) :
    Tells constructionCodes (b.explicit h c source destination).1 := by
  cases c with
  | resolver path =>
      unfold explicit
      dsimp only
      split
      · exact tells_ok _
      · exact b.fail_tells (by decide) _
  | method name => exact b.findMethod_tells h _ _ name
  | mapper s d =>
      unfold explicit
      dsimp only
      split
      · exact b.fail_tells (by decide) _
      · exact tells_ok _

theorem applyStrategy_tells (s : Strategy) :
    Tells constructionCodes (b.applyStrategy s source destination) := by
  unfold applyStrategy
  split
  · exact (b.shape_tells source destination (some s)).map _
  · exact (b.checkOutput_tells destination s).bind fun _ => tells_ok _

/-- **A plan** is refused for what its directive names or for its values. -/
theorem plan_tells : Tells constructionCodes (b.plan h source destination).1 := by
  unfold plan
  split
  · exact b.structural_tells source destination
  · rename_i c _
    have hcheck := b.checkHelper_tells source destination c
    have hexplicit := b.explicit_tells h source destination c
    split
    · rename_i ds hds
      rw [hds] at hcheck
      exact hcheck
    · split
      · rename_i ds k he
        rw [he] at hexplicit
        exact hexplicit
      · exact b.applyStrategy_tells source destination _

/-! ## 4. Chains -/

theorem hopPolicy_tells (plan : Plan) (e : PropertyEnd) (terminal : Bool) (before : List String)
    (hop : Hop) : Tells constructionCodes (b.hopPolicy plan e terminal before hop) := by
  unfold hopPolicy
  repeat' split
  all_goals first | exact tells_ok _ | exact b.fail_tells (by decide) _

theorem hopPolicies_tells (plan : Plan) (e : PropertyEnd) (before : List String)
    (hops : List Hop) : Tells constructionCodes (b.hopPolicies plan e before hops) := by
  induction hops generalizing before with
  | nil => exact tells_ok _
  | cons hop rest ih => exact ((b.hopPolicy_tells plan e _ _ hop).both (ih _)).map _

end PropertyBuilder

/-! ## 5. Mappings -/

theorem Builder.property_tells (b : Builder) (h : Helpers) (m : PropertyMatch) :
    Tells constructionCodes (b.property h m).1 := by
  unfold property
  dsimp only
  split
  · exact .nil
  · rename_i last _
    have hplan := PropertyBuilder.plan_tells
      { b with
        place := Location.ofProperty b.key.destination (PropertyEnd.ofProperty m.destination).name
        directives := m.directives }
      h last.ty (PropertyEnd.ofProperty m.destination).ty
    split
    · rename_i ds k he
      rw [he] at hplan
      exact hplan
    · exact (PropertyBuilder.hopPolicies_tells _ _ _ _ _).map _

theorem Builder.properties_codes (b : Builder) (h : Helpers) (ms : List PropertyMatch) :
    CodesIn constructionCodes (b.properties h ms).2.2 := by
  induction ms generalizing h with
  | nil => exact .nil
  | cons m ms ih => exact .append (b.property_tells h m) (ih _)

/-- What building a mapping reports. -/
def buildCodes : List DiagnosticCode :=
  .noParameterlessConstructor :: matchingCodes ++ constructionCodes

/-- **Building a mapping reports** on its destination, on the matching and on the properties. -/
theorem Mapping.codes_buildFrom (c : BuildContext) (id : MappingId) {m : Mapping}
    (source destination : TypeDecl) (h : CodesIn buildCodes m.diagnostics) :
    CodesIn buildCodes (m.buildFrom c id source destination).diagnostics := by
  have hconstructor : CodesIn buildCodes (constructorReports destination) := by
    unfold constructorReports
    split
    · exact .nil
    · exact .report List.mem_cons_self _ _
  have hmatched : CodesIn buildCodes (matchProperties c.schema m.key m.index).reports :=
    (matchProperties_codes _ _ _).mono (by decide)
  have hbuilt : CodesIn buildCodes
      (Builder.properties { c with key := m.key, own := id } Helpers.none
        (matchProperties c.schema m.key m.index).pairs).2.2 :=
    (Builder.properties_codes _ _ _).mono (by decide)
  exact ((h.append hconstructor).append hmatched).append hbuilt

end TypeMapper

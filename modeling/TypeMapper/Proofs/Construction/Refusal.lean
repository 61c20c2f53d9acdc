import TypeMapper.Proofs.Construction.Resolvers
/-!
# What refused pairs leave behind

A helper is needed from the moment that a directive finds it. Only then it is seen whether its result
fits the destination, whether a container can be mapped slot by slot, and whether the links of the
chain may be absent. A pair that is refused for one of these leaves its helper behind.

* `Helpers.Has`: what a helper needs is there already.
* `Helpers.use_eq_self_iff`: nothing is added exactly where that is so.
* `Builder.unchanged_of_refused_iff`: a refused pair leaves the helpers as they were exactly if its
  directive finds none, or one that was there already.
* `Builder.count_stays`: the resolver of a refused pair stays.
-/

namespace TypeMapper

/-! ## 1. Helpers that are there -/

namespace Helpers

variable {h : Helpers} {ps : List EntryParameter}

/-- What a helper needs is there: an instance that serves for the resolver, or what the method takes
beside its subject. -/
def Has (h : Helpers) : Helper → Prop
  | .resolver r => ∃ i ∈ h.resolvers, i.Serves r
  | .method _ m => ∀ p ∈ m.extras, (EntryParameter.ofLocal p.name p.ty).isIn h.parameters = true

theorem addParameters_eq_self_iff :
    h.addParameters ps = h ↔ ∀ p ∈ ps, p.isIn h.parameters = true := by
  refine ⟨fun heq p hp => ?_, fun hin => ?_⟩
  · have hadded := (h.grow_addParameters ps).2 p hp
    rwa [heq] at hadded
  · induction ps with
    | nil => rfl
    | cons p ps ih =>
        obtain ⟨hp, hps⟩ := List.forall_mem_cons.mp hin
        have hfirst : h.addParameter p = h := by
          rw [addParameter, if_pos hp]
        calc h.addParameters (p :: ps) = (h.addParameter p).addParameters ps := rfl
          _ = h.addParameters ps := by rw [hfirst]
          _ = h := ih hps

theorem resolver_eq_self_iff {r : Resolver} : (h.resolver r).2 = h ↔ h.Has (.resolver r) := by
  cases hfound : h.instance? r with
  | some i =>
      rw [resolver_of_instance hfound]
      exact iff_of_true rfl ⟨i, serves_of_instance hfound⟩
  | none =>
      rw [resolver_of_no_instance hfound]
      refine iff_of_false (fun heq => ?_) ?_
      · have hlength := congrArg (fun k : Helpers => k.resolvers.length) heq
        rw [List.length_append, List.length_singleton] at hlength
        omega
      · rintro ⟨i, hi, hserves⟩
        exact not_serves_of_no_instance hfound hi hserves

/-- **A helper adds nothing** exactly if what it needs is there. -/
theorem use_eq_self_iff {f : Helper} : h.use f = h ↔ h.Has f := by
  cases f with
  | resolver r => exact resolver_eq_self_iff
  | method owner m => exact addParameters_eq_self_iff.trans List.forall_mem_map

end Helpers

/-! ## 2. Refused pairs -/

namespace Builder

variable {b : Builder} {h : Helpers} {m : PropertyMatch}

/-- **A refused pair leaves the helpers as they were exactly if its directive finds none, or one that
was there already**, whatever it is refused for. It is refused with an error. -/
theorem unchanged_of_refused_iff (hm : m.source ≠ [])
    (hrefused : (b.property h m).1.toOption = none) :
    ((b.property h m).2 = h ↔ ∀ f, b.Finds m f → h.Has f) ∧
      Diagnostic.hasErrors (b.property h m).1.reports = true := by
  refine ⟨⟨fun hsame f hf => ?_, fun hhas => ?_⟩, eq_true_of_ne_false fun hclean => ?_⟩
  · rw [(property_of_finds hm hf).1] at hsame
    exact Helpers.use_eq_self_iff.mp hsame
  · rcases b.property_helpers_cases h m with hsame | ⟨f, hf, huse⟩
    · exact hsame
    · rw [huse]
      exact Helpers.use_eq_self_iff.mpr (hhas f hf)
  · obtain ⟨p, hp, -⟩ := (property_builds (b := b) (h := h) hm).meets.exists_ok hclean
    rw [hp] at hrefused
    cases hrefused

/-- A mapping of a note in a schema with a resolver that counts the letters of a text. The resolver is
built from a language. -/
def countBuilder : Builder where
  schema := Schema.ofLists [] [⟨"text::Count", [⟨"language", .scalar "String" false false, false⟩],
    .scalar "String" false false, .scalar "u32" true false, false⟩]
  config := Config.standard
  declared := []
  key := ⟨"app::Note", "view::Note"⟩
  own := 0

/-- A text that is wanted as a text again, through a resolver. -/
def textPair (resolver : String) : PropertyMatch where
  source := [⟨"text", .scalar "String" false false, false, ⟨true, true⟩, []⟩]
  destination := ⟨"text", .scalar "String" false false, false, ⟨true, true⟩, []⟩
  directives := { PropertyDirectives.none with conversion := some (.resolver resolver) }

/-- What the count of letters needs. -/
def countHelpers : Helpers :=
  let language := EntryParameter.ofLocal "count_language" (.scalar "String" false false)
  ⟨[⟨"count", "text::Count", [language], false⟩], [language]⟩

/-- An unknown resolver is not found, and nothing is needed for it. The count of letters is no text
either, but the resolver is found, and there is nothing to add only the second time. -/
theorem unchanged_of_refused_texts :
    let unknown := countBuilder.property Helpers.none (textPair "text::Size")
    let first := countBuilder.property Helpers.none (textPair "text::Count")
    let second := countBuilder.property countHelpers (textPair "text::Count")
    (unknown.1.toOption = none ∧ unknown.2 = Helpers.none ∧
        ∀ f, countBuilder.Finds (textPair "text::Size") f → Helpers.none.Has f) ∧
      (first.1.toOption = none ∧ first.2 = countHelpers ∧
        ¬ ∀ f, countBuilder.Finds (textPair "text::Count") f → Helpers.none.Has f) ∧
      second.1.toOption = none ∧ second.2 = countHelpers ∧
        ∀ f, countBuilder.Finds (textPair "text::Count") f → countHelpers.Has f := by
  intro unknown first second
  have hsource (r : String) : (textPair r).source ≠ [] := List.cons_ne_nil _ _
  have hunknown : unknown.1.toOption = none := by decide +kernel
  have hfirst : first.1.toOption = none := by decide +kernel
  have hsecond : second.1.toOption = none := by decide +kernel
  have hnone : unknown.2 = Helpers.none := by decide +kernel
  have hmore : first.2 = countHelpers := by decide +kernel
  have hsame : second.2 = countHelpers := by decide +kernel
  refine ⟨⟨hunknown, hnone, (unchanged_of_refused_iff (hsource _) hunknown).1.mp hnone⟩,
    ⟨hfirst, hmore, fun hhas => ?_⟩,
    hsecond, hsame, (unchanged_of_refused_iff (hsource _) hsecond).1.mp hsame⟩
  have hkept := (unchanged_of_refused_iff (hsource _) hfirst).1.mpr hhas
  exact absurd (hmore.symm.trans hkept) (by decide)

/-- **The resolver of a refused pair stays**: nothing calls it, but its instance is built and its
language is a parameter. So not every refused pair leaves the helpers as they were. -/
theorem count_stays :
    (countBuilder.property Helpers.none (textPair "text::Count")).1.toOption = none ∧
      (countBuilder.property Helpers.none (textPair "text::Count")).2 = countHelpers ∧
      ¬ ∀ (b : Builder) (h : Helpers) (m : PropertyMatch), m.source ≠ [] →
        (b.property h m).1.toOption = none → (b.property h m).2 = h := by
  have hrefused : (countBuilder.property Helpers.none (textPair "text::Count")).1.toOption = none := by
    decide +kernel
  have hleft : (countBuilder.property Helpers.none (textPair "text::Count")).2 = countHelpers := by
    decide +kernel
  refine ⟨hrefused, hleft, fun hall => ?_⟩
  have hnone := hall countBuilder Helpers.none _ (List.cons_ne_nil _ _) hrefused
  exact absurd (hleft.symm.trans hnone) (by decide)

end Builder

end TypeMapper

import TypeMapper.Construction
import TypeMapper.Proofs.Outcome
/-!
# What attempts come to

An attempt is judged by both of its ends at once: the value it makes has some property, or it is
explained why there is none, by errors at one place. So each function of the construction has one
lemma, which follows from those on the functions it calls. Where only the value matters, the
judgement on what computations give goes through the same ways to put attempts together.

* `Attempt.Meets`: the judgement.
* `Attempt.Meets.bind`, `map`, `both`, `all`: it goes through every way to put attempts together.
* `Attempt.Settles`: what follows for the reports alone, whatever the value is.
* `Attempt.gives_both`: what two attempts give.
* `Builder.property_planned`: what the property of a pair comes from.
-/

namespace TypeMapper

namespace Attempt

variable {α β : Type} {place : Location} {P : α → Prop} {Q : β → Prop}

/-- The value of an attempt has a property, or there are reports, all on errors at a place. -/
def Meets (place : Location) (P : α → Prop) : Attempt α → Prop
  | .ok a => P a
  | .error ds => ds ≠ [] ∧ ∀ d ∈ ds, d.isError = true ∧ d.location = place

theorem meets_ok {a : α} (h : P a) : Meets place P (.ok a) := h

/-- A failure is explained, unless its code is that of a warning. -/
theorem meets_fail {code : DiagnosticCode} {message : String} (h : code.severity = .error) :
    Meets place P (fail code place message) := by
  refine ⟨List.cons_ne_nil _ _, fun d hd => ?_⟩
  rw [List.mem_singleton.mp hd]
  exact ⟨beq_iff_eq.mpr h, rfl⟩

theorem Meets.imp {R : α → Prop} {x : Attempt α} (h : Meets place P x) (hPR : ∀ a, P a → R a) :
    Meets place R x := by
  cases x with
  | ok a => exact hPR a h
  | error ds => exact h

theorem Meets.bind {x : Attempt α} {f : α → Attempt β} (hx : Meets place P x)
    (hf : ∀ a, P a → Meets place Q (f a)) : Meets place Q (x >>= f) := by
  cases x with
  | ok a => exact hf a hx
  | error ds => exact hx

theorem Meets.map {x : Attempt α} {f : α → β} (hx : Meets place P x) (hf : ∀ a, P a → Q (f a)) :
    Meets place Q (x.map f) := by
  cases x with
  | ok a => exact hf a hx
  | error ds => exact hx

theorem Meets.both {x : Attempt α} {y : Attempt β} (hx : Meets place P x) (hy : Meets place Q y) :
    Meets place (fun p => P p.1 ∧ Q p.2) (both x y) := by
  cases x with
  | ok a =>
      cases y with
      | ok b => exact ⟨hx, hy⟩
      | error es => exact hy
  | error ds =>
      cases y with
      | ok b => exact hx
      | error es =>
          refine ⟨List.append_ne_nil_of_left_ne_nil hx.1 es, fun d hd => ?_⟩
          exact (List.mem_append.mp hd).elim (hx.2 d) (hy.2 d)

/-- All values of a list have the property, or all that are missing are explained. -/
theorem Meets.all {xs : List (Attempt α)} (h : ∀ x ∈ xs, Meets place P x) :
    Meets place (fun as => ∀ a ∈ as, P a) (all xs) := by
  induction xs with
  | nil => exact fun a ha => absurd ha List.not_mem_nil
  | cons x xs ih =>
      have hrest := ih fun y hy => h y (List.mem_cons_of_mem x hy)
      refine ((h x List.mem_cons_self).both hrest).map fun p hp a ha => ?_
      rcases List.mem_cons.mp ha with rfl | ha
      · exact hp.1
      · exact hp.2 a ha

/-- An attempt without an error among its reports has made its value. -/
theorem Meets.exists_ok {x : Attempt α} (h : Meets place P x)
    (hx : Diagnostic.hasErrors x.reports = false) : ∃ a, x = .ok a ∧ P a := by
  cases x with
  | ok a => exact ⟨a, rfl, h⟩
  | error ds =>
      obtain ⟨d, hd⟩ := List.exists_mem_of_ne_nil ds h.1
      have herr : Diagnostic.hasErrors ds = true := List.any_eq_true.mpr ⟨d, hd, (h.2 d hd).1⟩
      exact absurd (herr.symm.trans hx) Bool.noConfusion

/-- There is a value exactly where there is no report. Without a value there is a report, and all
reports are on errors at a place. -/
structure Settles (place : Location) (x : Attempt α) : Prop where
  made_iff : (∃ a, x = .ok a) ↔ x.reports = []
  refused : (¬ ∃ a, x = .ok a) →
    x.reports ≠ [] ∧ ∀ d ∈ x.reports, d.severity = .error ∧ d.location = place

theorem Meets.settles {x : Attempt α} (h : Meets place P x) : Settles place x := by
  cases x with
  | ok a => exact ⟨iff_of_true ⟨a, rfl⟩ rfl, fun hnone => absurd ⟨a, rfl⟩ hnone⟩
  | error ds =>
      refine ⟨iff_of_false ?_ h.1, fun _ => ⟨h.1, fun d hd => ?_⟩⟩
      · rintro ⟨a, ⟨⟩⟩
      · exact ⟨eq_of_beq (h.2 d hd).1, (h.2 d hd).2⟩

/-! ## What two attempts give -/

theorem gives_both {x : Attempt α} {y : Attempt β} (hx : Gives P x) (hy : Gives Q y) :
    Gives (fun p => P p.1 ∧ Q p.2) (both x y) := by
  cases x with
  | error ds => cases y <;> exact gives_error _
  | ok a =>
      cases y with
      | error es => exact gives_error es
      | ok b => exact gives_ok ⟨hx a rfl, hy b rfl⟩

end Attempt

/-! ## Properties -/

namespace Builder

variable {b : Builder} {h : Helpers} {ms : List PropertyMatch} {p : PropertyMapping}

/-- The context of a pair. -/
def forPair (b : Builder) (m : PropertyMatch) : PropertyBuilder :=
  { b with
    place := Location.ofProperty b.key.destination m.destination.name
    directives := m.directives }

/-- **The property of a pair comes from a plan** for the types at both of its ends, and from the
policies of the links in between. -/
theorem property_planned (b : Builder) (h : Helpers) (m : PropertyMatch) :
    Gives (fun p => ∃ last plan hs, (m.source.map Hop.ofProperty).getLast? = some last ∧
      ((b.forPair m).plan h last.ty m.destination.ty).1 = .ok plan ∧
      (b.forPair m).hopPolicies plan (PropertyEnd.ofProperty m.destination) []
        (m.source.map Hop.ofProperty) = .ok hs ∧
      p = plan.toMapping hs (PropertyEnd.ofProperty m.destination) m.directives)
      (b.property h m).1 := by
  unfold property
  dsimp only
  split
  · exact gives_error _
  · rename_i last hlast
    split
    · exact gives_error _
    · rename_i plan k hplan
      exact (gives_self _).map fun hs hhs =>
        ⟨last, plan, hs, hlast, congrArg Prod.fst hplan, hhs, rfl⟩

/-- The property of a pair has its destination and what its directives say. -/
theorem property_fields (b : Builder) (h : Helpers) (m : PropertyMatch) :
    Gives (fun p => p.destination = PropertyEnd.ofProperty m.destination ∧
      p.ignoreNull = m.directives.ignoreNull ∧
      p.maxRecursionDepth = m.directives.maxRecursionDepth) (b.property h m).1 := by
  intro p hp
  obtain ⟨last, plan, hs, -, -, -, rfl⟩ := b.property_planned h m p hp
  exact ⟨rfl, rfl, rfl⟩

/-- What is recorded is recorded for the first pair or for the others. -/
theorem mem_properties_cons {m : PropertyMatch} : p ∈ (b.properties h (m :: ms)).1 ↔
    (b.property h m).1 = .ok p ∨ p ∈ (b.properties (b.property h m).2 ms).1 := by
  have hfirst : p ∈ (b.property h m).1.toOption.toList ↔ (b.property h m).1 = .ok p := by
    cases (b.property h m).1 with
    | error ds => exact iff_of_false List.not_mem_nil nofun
    | ok q => exact List.mem_singleton.trans ⟨congrArg Except.ok ∘ Eq.symm, fun | rfl => rfl⟩
  exact List.mem_append.trans (or_congr_left hfirst)

/-- What is reported is reported on the first pair or on the others. -/
theorem mem_reports_cons {m : PropertyMatch} {d : Diagnostic} :
    d ∈ (b.properties h (m :: ms)).2.2 ↔
      d ∈ (b.property h m).1.reports ∨ d ∈ (b.properties (b.property h m).2 ms).2.2 :=
  List.mem_append

/-- A property of pairs is that of one of them. -/
theorem exists_property_of_mem_properties (hp : p ∈ (b.properties h ms).1) :
    ∃ k, ∃ m ∈ ms, (b.property k m).1 = .ok p := by
  induction ms generalizing h with
  | nil => exact absurd hp List.not_mem_nil
  | cons m ms ih =>
      rcases mem_properties_cons.mp hp with hfirst | hrest
      · exact ⟨h, m, List.mem_cons_self, hfirst⟩
      · obtain ⟨k, m', hm', hprop⟩ := ih hrest
        exact ⟨k, m', List.mem_cons_of_mem m hm', hprop⟩

end Builder

/-- A mapping that is built is built from the types of its key. -/
theorem Mapping.eq_buildFrom_of_build {c : BuildContext} {id : MappingId} {m n : Mapping}
    (h : m.build c id = .ok n) :
    ∃ source destination, n = m.buildFrom c id source destination := by
  unfold build at h
  split at h
  · cases h
  · rename_i source _
    split at h
    · cases h
    · rename_i destination _
      exact ⟨source, destination, (Except.ok.inj h).symm⟩

/-- **Building a mapping adds the properties of pairs** of its matching. -/
theorem Mapping.exists_properties_of_build {c : BuildContext} {id : MappingId} {m n : Mapping}
    (h : m.build c id = .ok n) : ∃ ps, n.properties = m.properties ++ ps ∧ ∀ p ∈ ps, ∃ k,
      ∃ pair ∈ (matchProperties c.schema m.key m.index).pairs,
        ((⟨c, m.key, id⟩ : Builder).property k pair).1 = .ok p := by
  obtain ⟨source, destination, rfl⟩ := eq_buildFrom_of_build h
  exact ⟨_, rfl, fun p hp => Builder.exists_property_of_mem_properties hp⟩

end TypeMapper

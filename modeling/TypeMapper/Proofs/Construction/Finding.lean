import TypeMapper.Proofs.Construction.Placement
import TypeMapper.Proofs.Construction.Property
/-!
# What directives find

The directive of a property may name a helper, a resolver or a method. The mapping needs the helper
from the moment that it is found, whatever becomes of the property; and nothing else changes what
the mapping needs.

* `PropertyBuilder.Finds`, `Builder.Finds`: the helper that a directive names, where it is found.
* `Helpers.use`, `Helpers.call`: what is needed for a helper, and the strategy that calls it.
* `PropertyBuilder.plan_of_finds`, `plan_of_not_finds`: what planning a property does to the helpers.
* `Builder.property_of_finds`, `property_of_not_finds`: what a pair does to them.
* `Builder.properties_keep`: what every helper that is found keeps, a run over pairs keeps.
-/

namespace TypeMapper

open Attempt

/-! ## 1. Helpers that are named -/

/-- A helper: a resolver, or a method with the type that declares it. -/
inductive Helper where
  | resolver (r : Resolver)
  | method (owner : TypeDecl) (m : Method)

namespace Helpers

/-- Need a helper from now on. -/
def use (h : Helpers) : Helper → Helpers
  | .resolver r => (h.resolver r).2
  | .method _ m => h.addParameters (m.extras.map fun p => EntryParameter.ofLocal p.name p.ty)

/-- The call of a helper; the subject of a method is of a type. -/
def call (h : Helpers) (subject : TypeRef) : Helper → Strategy
  | .resolver r => .resolver (h.resolver r).1
  | .method owner m => .method (PropertyBuilder.methodCall owner m subject)

end Helpers

/-- A conversion names a helper for the types of a slot: the resolver at its path, or the only
method of its name that fits. -/
inductive Conversion.Names (b : PropertyBuilder) (slot : TypeRef × TypeRef) :
    Conversion → Helper → Prop
  | resolver {path : String} {r : Resolver} (hr : b.schema.resolver? path = some r) :
      Names b slot (.resolver path) (.resolver r)
  | method {name : String} {owner : TypeDecl} {m : Method}
      (hm : PropertyBuilder.matchingMethods (b.methodCandidates name) slot.1 slot.2 = [(owner, m)]) :
      Names b slot (.method name) (.method owner m)

namespace PropertyBuilder

/-- The directive of a property names a helper, and no mapping is declared between the two types
that it would convert. -/
structure Finds (b : PropertyBuilder) (source destination : TypeRef) (f : Helper) : Prop where
  named : ∃ c, b.directives.conversion = some c ∧ c.Names b (b.givenSlot source destination) f
  undeclared : b.declaredPair? (b.givenSlot source destination).1
    (b.givenSlot source destination).2 = none

variable {b : PropertyBuilder} {h : Helpers} {source destination : TypeRef} {f : Helper}
  {c : Conversion} {s : Strategy}

theorem explicit_of_names (hf : c.Names b (b.givenSlot source destination) f) :
    b.explicit h c source destination =
      (.ok (h.call (b.givenSlot source destination).1 f), h.use f) := by
  cases hf with
  | resolver hr =>
      unfold explicit
      dsimp only
      rw [hr]
      rfl
  | method hm =>
      rename_i name owner m
      have hne : (b.methodCandidates name).isEmpty = false := by
        rw [List.isEmpty_eq_false_iff]
        intro hnil
        rw [hnil] at hm
        cases hm
      unfold explicit
      dsimp only
      unfold findMethod
      rw [if_neg (by rw [hne]; exact Bool.false_ne_true)]
      unfold givenSlot at hm
      rw [hm]
      rfl

/-- Nothing is needed where no helper is named. -/
theorem explicit_of_not_names (hno : ∀ f, ¬ c.Names b (b.givenSlot source destination) f) :
    (b.explicit h c source destination).2 = h := by
  cases c with
  | resolver path =>
      unfold explicit
      dsimp only
      split
      · rename_i r hr
        exact absurd (.resolver hr) (hno (.resolver r))
      · rfl
  | method name =>
      unfold explicit
      dsimp only
      unfold findMethod
      dsimp only
      split
      · rfl
      · split
        · rfl
        · rename_i owner m hm
          exact absurd (.method hm) (hno (.method owner m))
        · rfl
  | mapper p q =>
      unfold explicit
      dsimp only
      split <;> rfl

/-- A conversion that names a helper is refused exactly where a mapping is declared. -/
theorem checkHelper_eq_ok_iff (hf : c.Names b (b.givenSlot source destination) f) :
    b.checkHelper c source destination = .ok () ↔
      b.declaredPair? (b.givenSlot source destination).1
        (b.givenSlot source destination).2 = none := by
  have htext : ∃ text, helperText? c = some text := by
    cases hf with
    | resolver hr => exact ⟨_, rfl⟩
    | method hm => exact ⟨_, rfl⟩
  obtain ⟨text, htext⟩ := htext
  unfold checkHelper givenSlot
  rw [htext]
  dsimp only
  split
  · rename_i key hkey
    rw [hkey]
    exact iff_of_false nofun nofun
  · rename_i hnone
    exact iff_of_true rfl hnone

/-! ## 2. Plans -/

theorem element_strategy (slot : Slot) (s : Strategy) (source destination : TypeRef) :
    Gives (fun e => e.strategy = some s) (b.element slot (some s) source destination) := by
  unfold element
  exact (gives_true (b.checkOutput s destination)).bind fun _ _ =>
    (gives_true _).bind fun _ _ => gives_ok rfl

/-- **A strategy that is put on a property** is one of its strategies. -/
theorem applyStrategy_mem (b : PropertyBuilder) (s : Strategy) (source destination : TypeRef) :
    Gives (fun plan => s ∈ plan.strategies) (b.applyStrategy s source destination) := by
  have hslot {sh : Shape} {e : ElementMapping} (he : e ∈ sh.elements) (hs : e.strategy = some s) :
      s ∈ (Plan.shape sh).strategies := List.mem_filterMap.mpr ⟨e, he, hs⟩
  unfold applyStrategy
  split
  · rename_i hper
    refine Gives.map (P := fun sh => s ∈ (Plan.shape sh).strategies) ?_ fun _ => id
    unfold shape
    split
    · exact (element_strategy _ s _ _).map fun e he => hslot List.mem_cons_self he
    · exact (gives_both (gives_true _) (element_strategy _ s _ _)).map fun p hp =>
        hslot (List.mem_cons_of_mem _ List.mem_cons_self) hp.2
    · -- the parts of a tuple are given no strategy
      simp [perElement, TypeRef.isCollection, TypeRef.isMap] at hper
    · exact gives_error _
  · exact (gives_true (b.checkOutput s destination)).bind fun _ _ =>
      gives_ok (List.mem_singleton_self s)

/-- **A helper that is found** is needed and is put on the property. -/
theorem plan_of_finds (hf : b.Finds source destination f) : b.plan h source destination =
    (b.applyStrategy (h.call (b.givenSlot source destination).1 f) source destination,
      h.use f) := by
  obtain ⟨c, hc, hnames⟩ := hf.named
  unfold plan
  rw [hc]
  dsimp only
  rw [(checkHelper_eq_ok_iff hnames).mpr hf.undeclared, explicit_of_names hnames]

/-- Nothing is needed where no helper is found. -/
theorem plan_of_not_finds (hno : ∀ f, ¬ b.Finds source destination f) :
    (b.plan h source destination).2 = h := by
  unfold plan
  split
  · rfl
  · rename_i c hc
    split
    · rfl
    · rename_i hcheck
      have hnone : ∀ f, ¬ c.Names b (b.givenSlot source destination) f := fun f hnames =>
        hno f ⟨⟨c, hc, hnames⟩, (checkHelper_eq_ok_iff hnames).mp hcheck⟩
      have hsame := explicit_of_not_names (h := h) hnone
      split <;> (rename_i heq; rwa [heq] at hsame)

end PropertyBuilder

/-! ## 3. Pairs -/

/-- The type at the end of the chain of a pair. -/
def PropertyMatch.sourceType (m : PropertyMatch) : TypeRef := (m.source.getLast?.getD default).ty

namespace Builder

/-- The directive of a pair finds a helper. -/
def Finds (b : Builder) (m : PropertyMatch) (f : Helper) : Prop :=
  (b.forPair m).Finds m.sourceType m.destination.ty f

/-- The type of the subject that the directive of a pair is for. -/
def subject (b : Builder) (m : PropertyMatch) : TypeRef :=
  ((b.forPair m).givenSlot m.sourceType m.destination.ty).1

variable {b : Builder} {h : Helpers} {m : PropertyMatch} {ms : List PropertyMatch} {f : Helper}

/-- The helpers after a pair are those after planning it. -/
theorem property_helpers (hm : m.source ≠ []) :
    (b.property h m).2 = ((b.forPair m).plan h m.sourceType m.destination.ty).2 := by
  obtain ⟨last, hlast⟩ := Option.ne_none_iff_exists'.mp (mt List.getLast?_eq_none_iff.mp hm)
  have hhop : (m.source.map Hop.ofProperty).getLast? = some (Hop.ofProperty last) := by
    rw [List.getLast?_map, hlast]
    rfl
  have hty : m.sourceType = (Hop.ofProperty last).ty := by
    rw [PropertyMatch.sourceType, hlast]
    rfl
  unfold property
  dsimp only
  rw [hhop, hty]
  dsimp only
  split <;> (rename_i heq; exact (congrArg Prod.snd heq).symm)

/-- **A pair whose directive finds a helper** needs it; its property, if it comes about, calls it. -/
theorem property_of_finds (hm : m.source ≠ []) (hf : b.Finds m f) :
    (b.property h m).2 = h.use f ∧
      Gives (fun p => h.call (b.subject m) f ∈ p.strategies) (b.property h m).1 := by
  have hplan := PropertyBuilder.plan_of_finds (h := h) hf
  refine ⟨(property_helpers hm).trans (congrArg Prod.snd hplan), fun p hp => ?_⟩
  obtain ⟨last, plan, hs, hlast, hmade, -, rfl⟩ := b.property_planned h m p hp
  have hty : last.ty = m.sourceType := by
    rw [List.getLast?_map] at hlast
    obtain ⟨q, hq, rfl⟩ := Option.map_eq_some_iff.mp hlast
    rw [PropertyMatch.sourceType, hq]
    rfl
  rw [hty, hplan] at hmade
  rw [Plan.strategies_toMapping]
  exact (b.forPair m).applyStrategy_mem _ _ _ plan hmade

/-- A pair whose directive finds no helper needs none. -/
theorem property_of_not_finds (hm : m.source ≠ []) (hno : ∀ f, ¬ b.Finds m f) :
    (b.property h m).2 = h :=
  (property_helpers hm).trans (PropertyBuilder.plan_of_not_finds hno)

/-- A resolver that is found is the one of the schema at its path. -/
theorem Finds.resolver? {r : Resolver} (hf : b.Finds m (.resolver r)) :
    b.schema.resolver? r.path = some r := by
  obtain ⟨⟨c, -, hnames⟩, -⟩ := hf
  cases hnames with
  | resolver hr =>
      obtain ⟨-, rfl⟩ := Catalog.mem_and_key_of_find? hr
      exact hr

/-- A pair needs nothing, or the helper that its directive finds. -/
theorem property_helpers_cases (b : Builder) (h : Helpers) (m : PropertyMatch) :
    (b.property h m).2 = h ∨ ∃ f, b.Finds m f ∧ (b.property h m).2 = h.use f := by
  by_cases hfound : m.source ≠ [] ∧ ∃ f, b.Finds m f
  · obtain ⟨hm, f, hf⟩ := hfound
    exact .inr ⟨f, hf, (property_of_finds hm hf).1⟩
  · refine .inl ?_
    by_cases hm : m.source = []
    · unfold property
      dsimp only
      rw [hm]
      rfl
    · exact property_of_not_finds hm fun f hf => hfound ⟨hm, f, hf⟩

/-- **What every helper that is found keeps**, a run over pairs keeps. -/
theorem properties_keep {I : Helpers → Prop} (hI : ∀ k, I k → ∀ m f, b.Finds m f → I (k.use f))
    (hstart : I h) : I (b.properties h ms).2.1 := by
  induction ms generalizing h with
  | nil => exact hstart
  | cons m ms ih =>
      have hstep : I (b.property h m).2 := by
        rcases b.property_helpers_cases h m with hsame | ⟨f, hf, huse⟩
        · rw [hsame]
          exact hstart
        · rw [huse]
          exact hI h hstart m f hf
      exact ih hstep

end Builder

end TypeMapper

import TypeMapper.Batch
import TypeMapper.Proofs.Matching
import TypeMapper.Proofs.Schema.Chain
/-!
# Types that hold the same

Two types without bases hold properties of the same names and types, in the same order, and no
directive says more than that one is mapped to the other. Matching pairs the properties by position,
leaves none over and reports nothing.

* `Property.Alike`: two properties of one name and one type.
* `Schema.Twins`: two such types.
* `Sides.Bare`: two sides that no directive changes; `Sides.claimers_of_bare`: who claims what.
* `matchProperties_twins`: the matching of two such types.
-/

namespace TypeMapper

/-! ## 1. Declarations without settings -/

variable {s : Schema} {t u : TypeDecl}

/-- The properties of a type without a base are its own. -/
theorem Schema.flattened_of_base_none (h : s.type? t.path = some t) (hbase : t.base = none) :
    s.flattened t.path = t.properties := by
  have hnone : s.base? t = none := by
    rw [base?, hbase]
    rfl
  have hchain : s.chain t.path = [t] := by
    rw [chain, h, chainFrom_of_not_seen List.not_mem_nil, hnone, chainFrom_none]
  rw [flattened, hchain, visible_eq]
  simp

theorem Property.effective_of_nil {p : Property} (h : p.directives = []) (owner : String)
    (index : Option UInt32) : p.effective owner index = (PropertyDirectives.none, []) := by
  rw [effective, h]
  rfl

/-- A type that does nothing but declare mappings from it has no settings. -/
theorem TypeDecl.effective_of_mapTo (h : ∀ e ∈ t.directives, ∃ d, e.directive = .mapTo d)
    (index : Option UInt32) : t.effective index = (TypeDirectives.none, []) := by
  refine List.foldlRecOn (motive := fun r => r = (TypeDirectives.none, [])) _ _ rfl
    fun r hr e he => ?_
  obtain ⟨d, hd⟩ := h e (mem_applicable.mp he).1
  rw [hr, readTypeEntry, hd]

/-! ## 2. Twins -/

/-- Two properties of one name and one type. -/
structure Property.Alike (p q : Property) : Prop where
  name : q.name = p.name
  ty : q.ty = p.ty

/-- A type whose values are taken over as they are: a scalar, or an object that no mapping is
declared for from it to itself. -/
def Schema.TakesOver (s : Schema) : TypeRef → Prop
  | .scalar .. => True
  | .object path _ => ∀ d ∈ s.candidates, d.key ≠ ⟨path, path⟩
  | _ => False

instance (s : Schema) : DecidablePred s.TakesOver
  | .scalar .. => .isTrue trivial
  | .object path _ => inferInstanceAs (Decidable (∀ d ∈ s.candidates, d.key ≠ ⟨path, path⟩))
  | .collection .. | .map .. | .tuple .. => .isFalse id

/-- **Two types that hold the same**, the first of which is mapped to the second. -/
structure Schema.Twins (s : Schema) (t u : TypeDecl) : Prop where
  source : s.type? t.path = some t
  destination : s.type? u.path = some u
  sourceBase : t.base = none
  destinationBase : u.base = none
  constructible : u.constructible = true
  nonempty : t.properties ≠ []
  /-- Names and types are the same position by position. -/
  alike : List.Forall₂ Property.Alike t.properties u.properties
  distinct : (t.properties.map Property.name).Nodup
  types : ∀ p ∈ t.properties, s.TakesOver p.ty
  access : ∀ p ∈ t.properties ++ u.properties, p.access = ⟨true, true⟩
  bare : ∀ p ∈ t.properties ++ u.properties, p.directives = []
  /-- The only directive on the types is the one that maps the first to the second. -/
  declares : ∃ index, t.directives = [⟨.mapTo u.path, index⟩]
  silent : u = t ∨ u.directives = []

namespace Schema.Twins

theorem readable (h : s.Twins t u) : s.readable t.path = t.properties := by
  rw [Schema.readable, flattened_of_base_none h.source h.sourceBase, List.filter_eq_self]
  intro p hp
  rw [h.access p (List.mem_append_left _ hp)]

theorem settable (h : s.Twins t u) : s.settable u.path = u.properties := by
  rw [Schema.settable, flattened_of_base_none h.destination h.destinationBase, List.filter_eq_self]
  intro p hp
  rw [h.access p (List.mem_append_right _ hp)]

theorem typeDirectives_source (h : s.Twins t u) (index : Option UInt32) :
    s.typeDirectives t.path index = (TypeDirectives.none, []) := by
  obtain ⟨i, hi⟩ := h.declares
  rw [Schema.typeDirectives, h.source]
  refine TypeDecl.effective_of_mapTo (fun e he => ?_) index
  rw [hi, List.mem_singleton] at he
  exact ⟨u.path, he ▸ rfl⟩

theorem typeDirectives_destination (h : s.Twins t u) (index : Option UInt32) :
    s.typeDirectives u.path index = (TypeDirectives.none, []) := by
  rcases h.silent with heq | hnil
  · rw [heq]
    exact h.typeDirectives_source index
  · rw [Schema.typeDirectives, h.destination]
    exact TypeDecl.effective_of_mapTo (fun e he => absurd (hnil ▸ he) List.not_mem_nil) index

end Schema.Twins

/-! ## 3. Sides without directives -/

namespace Sides

variable {b : Sides} {p d : Property × PropertyDirectives}

/-- **Two sides that no directive changes**, with the same names, each once. -/
structure Bare (b : Sides) : Prop where
  types : b.typeDirectives = TypeDirectives.none
  sources : ∀ p ∈ b.sources, p.2 = PropertyDirectives.none
  destinations : ∀ d ∈ b.destinations, d.2 = PropertyDirectives.none
  names : b.sources.map (fun p => p.1.name) = b.targets
  distinct : b.targets.Nodup

theorem isIgnored_of_bare (h : b.Bare) (name : String) : b.isIgnored name = false := by
  have hany : (b.destinations.any fun d => d.1.name == name && d.2.ignore) = false := by
    refine List.any_eq_false.mpr fun d hd => ?_
    rw [h.destinations d hd, PropertyDirectives.none, Bool.and_false]
    exact Bool.false_ne_true
  rw [isIgnored, hany, h.types]
  rfl

theorem openDestinations_of_bare (h : b.Bare) : b.openDestinations = b.destinations := by
  refine List.filter_eq_self.mpr fun d _ => ?_
  have hcount : b.isDuplicated d.1.name = false :=
    decide_eq_false (Nat.not_lt.mpr (List.nodup_iff_count_le_one.mp h.distinct _))
  rw [isIgnored_of_bare h, hcount]
  rfl

/-- A source property claims the destination of its name. -/
theorem fate_of_bare (h : b.Bare) (hp : p ∈ b.sources) :
    b.fate s p = .claims p.1.name := by
  have hname : p.1.name ∈ b.targets :=
    h.names ▸ List.mem_map_of_mem (f := fun p => p.1.name) hp
  refine fate_eq_claims_iff.mpr ⟨?_, ?_, isIgnored_of_bare h _, List.contains_iff_mem.mpr hname⟩
  · rw [h.sources p hp]
    rfl
  · rw [h.sources p hp]
    rfl

theorem claims_of_bare (h : b.Bare) : b.claims s =
    b.sources.map fun p => ⟨p.1.name, [p.1], PropertyDirectives.none⟩ := by
  have hpaths : b.pathClaims s = [] := by
    rw [pathClaims, openPaths, h.types]
    rfl
  rw [claims, hpaths, List.nil_append, ← List.filterMap_eq_map]
  refine List.filterMap_congr fun p hp => ?_
  rw [sourceClaim?_eq_some_iff.mpr ⟨_, fate_of_bare h hp, rfl⟩, h.sources p hp]
  rfl

/-- **Who claims what**: the destination of a name is claimed by the source of this name only. -/
theorem claimers_of_bare (h : b.Bare) (hp : p ∈ b.sources) :
    b.claimers s p.1.name = [⟨p.1.name, [p.1], PropertyDirectives.none⟩] := by
  have hnames : (b.sources.map fun q => q.1.name).Nodup := h.names.symm ▸ h.distinct
  have hone : b.sources.filter (fun q => q.1.name == p.1.name) = [p] := by
    refine List.perm_singleton.mp ((List.perm_ext_iff_of_nodup (hnames.of_map.filter _)
      (List.nodup_singleton p)).mpr fun q => ?_)
    rw [List.mem_filter, beq_iff_eq, List.mem_singleton]
    constructor
    · exact fun hq => List.inj_on_of_nodup_map hnames hq.1 hp hq.2
    · rintro rfl
      exact ⟨hp, rfl⟩
  rw [claimers, claims_of_bare h, List.filter_map]
  show (b.sources.filter fun q => q.1.name == p.1.name).map _ = _
  rw [hone]
  rfl

theorem pair?_of_bare (h : b.Bare) (hp : p ∈ b.sources) (hd : d.2 = PropertyDirectives.none)
    (hname : d.1.name = p.1.name) :
    b.pair? s d = some ⟨[p.1], d.1, PropertyDirectives.none⟩ := by
  rw [pair?, hname, claimers_of_bare h hp]
  dsimp only
  rw [pairOf, hd]
  rfl

/-- Each destination has one claim. -/
theorem exists_claimer_of_bare (h : b.Bare) (hd : d ∈ b.destinations) :
    ∃ c, b.claimers s d.1.name = [c] := by
  have hname : d.1.name ∈ b.sources.map fun p => p.1.name :=
    h.names ▸ List.mem_map_of_mem (f := fun d => d.1.name) hd
  obtain ⟨p, hp, heq⟩ := List.mem_map.mp hname
  exact ⟨_, heq ▸ claimers_of_bare h hp⟩

theorem leftovers_of_bare (h : b.Bare) : b.leftovers s = [] := by
  rw [leftovers, openDestinations_of_bare h, List.map_eq_nil_iff, List.filter_eq_nil_iff]
  intro d hd
  obtain ⟨c, hc⟩ := exists_claimer_of_bare (s := s) h hd
  rw [hc]
  exact Bool.false_ne_true

theorem unclaimed_of_bare (h : b.Bare) : b.sourcesOf s .unclaimed = [] := by
  rw [sourcesOf, List.map_eq_nil_iff, List.filter_eq_nil_iff]
  intro p hp
  rw [fate_of_bare h hp]
  exact Bool.false_ne_true

/-- Nothing is reported on ignored names, shared names and conflicts. -/
theorem reports_of_bare (h : b.Bare) : b.ignoredReports = [] ∧ b.duplicateReports = [] ∧
    b.openDestinations.filterMap (b.conflictReport? s) = [] := by
  refine ⟨?_, ?_, ?_⟩
  · rw [ignoredReports, h.types]
    rfl
  · refine List.map_eq_nil_iff.mpr (List.eq_nil_iff_forall_not_mem.mpr fun n hn => ?_)
    obtain ⟨-, ⟨hseen, -⟩ | hlt⟩ := mem_repeated_iff.mp hn
    · exact absurd hseen List.not_mem_nil
    · exact absurd hlt (Nat.not_lt.mpr (List.nodup_iff_count_le_one.mp h.distinct n))
  · refine List.filterMap_eq_nil_iff.mpr fun d hd => ?_
    obtain ⟨c, hc⟩ := exists_claimer_of_bare (s := s) h (openDestinations_of_bare h ▸ hd)
    rw [conflictReport?, hc]
    rfl

end Sides

/-! ## 4. The matching of twins -/

/-- A pair that takes a property over as it is. -/
def PropertyMatch.TakesOver (p : Property) (m : PropertyMatch) : Prop :=
  ∃ q, p.Alike q ∧ m = ⟨[p], q, PropertyDirectives.none⟩

/-- **A matching that takes over all properties** of a list by position and reports nothing. -/
structure Matching.TakesOver (ps : List Property) (r : Matching) : Prop where
  pairs : List.Forall₂ PropertyMatch.TakesOver ps r.pairs
  leftovers : r.leftovers = []
  unclaimed : r.unclaimed = []
  reports : r.reports = []

/-- What each of related entries is made of is related too. -/
theorem forall₂_filterMap {α β γ : Type} {R : α → γ → Prop} {f : β → Option γ} {xs : List α}
    {ys : List β} (h : List.Forall₂ (fun x y => ∃ z, f y = some z ∧ R x z) xs ys) :
    List.Forall₂ R xs (ys.filterMap f) := by
  induction h with
  | nil => exact .nil
  | cons hxy _ ih =>
      obtain ⟨z, hz, hR⟩ := hxy
      rw [List.filterMap_cons_some hz]
      exact .cons hR ih

/-- The names of properties that are alike. -/
theorem map_name_of_alike {ps qs : List Property} (h : List.Forall₂ Property.Alike ps qs) :
    qs.map Property.name = ps.map Property.name := by
  rw [← List.forall₂_eq_eq_eq, List.forall₂_map_left_iff, List.forall₂_map_right_iff]
  exact (h.imp fun _ _ hpq => hpq.name).flip

namespace Schema.Twins

theorem sources_eq (h : s.Twins t u) (index : Option UInt32) :
    (Sides.ofSchema s ⟨t.path, u.path⟩ index).sources =
      t.properties.map fun p => (p, PropertyDirectives.none) := by
  show (s.readable t.path).map _ = _
  rw [h.readable]
  refine List.map_congr_left fun p hp => ?_
  rw [withDirectives, Property.effective_of_nil (h.bare p (List.mem_append_left _ hp))]

theorem destinations_eq (h : s.Twins t u) (index : Option UInt32) :
    (Sides.ofSchema s ⟨t.path, u.path⟩ index).destinations =
      u.properties.map fun q => (q, PropertyDirectives.none) := by
  show (s.settable u.path).map _ = _
  rw [h.settable]
  refine List.map_congr_left fun q hq => ?_
  rw [withDirectives, Property.effective_of_nil (h.bare q (List.mem_append_right _ hq))]

theorem targets_eq (h : s.Twins t u) (index : Option UInt32) :
    (Sides.ofSchema s ⟨t.path, u.path⟩ index).targets = t.properties.map Property.name := by
  rw [Sides.targets, h.destinations_eq, List.map_map]
  exact map_name_of_alike h.alike

/-- No directive changes the sides of twins. -/
theorem bare_sides (h : s.Twins t u) (index : Option UInt32) :
    (Sides.ofSchema s ⟨t.path, u.path⟩ index).Bare where
  types := by
    show (TypeDirectives.none.merge (s.typeDirectives t.path index).1).merge
      (s.typeDirectives u.path index).1 = _
    rw [h.typeDirectives_source, h.typeDirectives_destination]
    rfl
  sources p hp := by
    rw [h.sources_eq] at hp
    obtain ⟨q, -, rfl⟩ := List.mem_map.mp hp
    rfl
  destinations d hd := by
    rw [h.destinations_eq] at hd
    obtain ⟨q, -, rfl⟩ := List.mem_map.mp hd
    rfl
  names := by
    rw [h.sources_eq, h.targets_eq, List.map_map]
    rfl
  distinct := h.targets_eq index ▸ h.distinct

end Schema.Twins

/-- **Matching takes twins over by position** and has nothing to report. -/
theorem matchProperties_twins (h : s.Twins t u) (index : Option UInt32) :
    (matchProperties s ⟨t.path, u.path⟩ index).TakesOver t.properties := by
  have hbare := h.bare_sides index
  obtain ⟨hignored, hduplicates, hconflicts⟩ := Sides.reports_of_bare (s := s) hbare
  refine ⟨?_, Sides.leftovers_of_bare hbare, Sides.unclaimed_of_bare hbare, ?_⟩
  · show List.Forall₂ _ _ ((Sides.ofSchema s ⟨t.path, u.path⟩ index).pairs s)
    rw [Sides.pairs, Sides.openDestinations_of_bare hbare, h.destinations_eq, List.filterMap_map]
    refine forall₂_filterMap (((List.forall₂_and_left _ _).mpr ⟨fun _ hp => hp, h.alike⟩).imp ?_)
    rintro p q ⟨hp, hpq⟩
    have hsource : (p, PropertyDirectives.none) ∈
        (Sides.ofSchema s ⟨t.path, u.path⟩ index).sources := by
      rw [h.sources_eq]
      exact List.mem_map_of_mem hp
    exact ⟨_, Sides.pair?_of_bare (d := (q, _)) hbare hsource rfl hpq.name, q, hpq, rfl⟩
  · have hdirectives : ∀ owner (ps : List Property), (∀ p ∈ ps, p.directives = []) →
        directiveReports owner index ps = [] := fun owner ps hps =>
      List.flatMap_eq_nil_iff.mpr fun p hp => by rw [Property.effective_of_nil (hps p hp)]
    have hsource := hdirectives t.path t.properties fun p hp => h.bare p (List.mem_append_left _ hp)
    have hdestination := hdirectives u.path u.properties fun p hp =>
      h.bare p (List.mem_append_right _ hp)
    simp only [matchProperties, h.typeDirectives_source, h.typeDirectives_destination, hignored,
      hduplicates, hconflicts, h.readable, h.settable, hsource, hdestination, hbare.types,
      TypeDirectives.none, List.filterMap_nil, List.append_nil]

end TypeMapper

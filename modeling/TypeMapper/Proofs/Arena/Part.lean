import TypeMapper.Proofs.Arena.Reachability
import TypeMapper.Proofs.Resolution.Binding
/-!
# Parts of arenas in other arenas

Two runs are compared mapping by mapping: what one arena has under some of its ids, another arena
has under other ids, but for what one does not look at. A part is closed: with a mapping it has
those that the mapping delegates to. So whatever a phase does to a mapping, looking at nothing but
the mapping and those it delegates to, it does in both arenas.

* `Mapping.rename`: a mapping with other ids for the targets of its calls.
* `View`: what one looks at; `View.mapping`: a mapping without the rest.
* `Arena.Part`: what one arena has, another one has; the INVARIANT of all phases.
* `Arena.Part.transform`: a change of both arenas keeps it if it keeps it mapping by mapping.
* `Arena.Part.targets`, `reachable`: what a mapping delegates to, and what it reaches.
-/

namespace TypeMapper

/-! ## 1. Other ids -/

/-- The call with another id for its target. -/
def DelegateCall.rename (σ : MappingId → MappingId) (c : DelegateCall) : DelegateCall :=
  { c with target := c.target.map σ }

@[simp] theorem DelegateCall.rename_key (σ : MappingId → MappingId) (c : DelegateCall) :
    (c.rename σ).key = c.key := rfl

@[simp] theorem DelegateCall.isBound_rename (σ : MappingId → MappingId) (c : DelegateCall) :
    (c.rename σ).isBound = c.isBound := Option.isSome_map

theorem DelegateCall.rename_id : DelegateCall.rename id = id := by
  funext c
  simp [rename]

/-- The mapping with other ids for the targets of its calls. -/
def Mapping.rename (σ : MappingId → MappingId) (m : Mapping) : Mapping :=
  m.mapDelegates (DelegateCall.rename σ)

theorem Mapping.rename_id (m : Mapping) : m.rename id = m := by
  rw [rename, DelegateCall.rename_id, mapDelegates_id]

theorem Strategy.mapDelegate_congr {f g : DelegateCall → DelegateCall} {s : Strategy}
    (h : ∀ d ∈ s.delegate?, f d = g d) : s.mapDelegate f = s.mapDelegate g := by
  cases s with
  | delegate d => exact congrArg Strategy.delegate (h d rfl)
  | method c => rfl
  | resolver c => rfl

theorem Shape.mapElements_congr {f g : ElementMapping → ElementMapping} {sh : Shape}
    (h : ∀ e ∈ sh.elements, f e = g e) : sh.mapElements f = sh.mapElements g := by
  cases sh with
  | scalar => rfl
  | collection s d e => rw [mapElements, mapElements, h e List.mem_cons_self]
  | map d k v =>
      rw [mapElements, mapElements, h k List.mem_cons_self,
        h v (List.mem_cons_of_mem k List.mem_cons_self)]
  | tuple es => exact congrArg Shape.tuple (List.map_congr_left h)

/-- A change of calls depends on the calls of the mapping alone. -/
theorem Mapping.mapDelegates_congr {f g : DelegateCall → DelegateCall} {m : Mapping}
    (h : ∀ d ∈ m.delegates, f d = g d) : m.mapDelegates f = m.mapDelegates g := by
  have hs : ∀ p ∈ m.properties, ∀ s ∈ p.strategies, s.mapDelegate f = s.mapDelegate g :=
    fun p hp s hs => Strategy.mapDelegate_congr fun d hd => h d <| List.mem_filterMap.mpr
      ⟨s, List.mem_flatMap.mpr ⟨p, hp, hs⟩, hd⟩
  have hp : m.properties.map (PropertyMapping.mapDelegates f) =
      m.properties.map (PropertyMapping.mapDelegates g) := by
    refine List.map_congr_left fun p hp => ?_
    have hwhole : p.strategy.map (Strategy.mapDelegate f) =
        p.strategy.map (Strategy.mapDelegate g) := by
      refine Option.map_congr fun s hmem => hs p hp s ?_
      exact List.mem_append_left _ (Option.mem_toList.mpr hmem)
    have hslots : p.shape.mapElements
          (fun e => { e with strategy := e.strategy.map (Strategy.mapDelegate f) }) =
        p.shape.mapElements
          (fun e => { e with strategy := e.strategy.map (Strategy.mapDelegate g) }) := by
      refine Shape.mapElements_congr fun e he => ?_
      have heq : e.strategy.map (Strategy.mapDelegate f) =
          e.strategy.map (Strategy.mapDelegate g) :=
        Option.map_congr fun s hmem =>
          hs p hp s (PropertyMapping.mem_strategies_of_element he hmem)
      rw [heq]
    simp only [PropertyMapping.mapDelegates, PropertyMapping.mapStrategies, hwhole, hslots]
  rw [mapDelegates, mapDelegates, hp]

/-! ## 2. Views -/

/-- What one looks at when mappings are compared, besides everything else. -/
structure View where
  /-- What the slots of containers do about absent values. -/
  policies : Bool
  /-- What is for the generated code alone: the depth of unrolling, and the reports on what a single
  expression leaves out. -/
  variants : Bool
  deriving DecidableEq, Repr

namespace View

variable (v : View)

/-- A slot without what one does not look at. -/
def element (e : ElementMapping) : ElementMapping :=
  if v.policies then e else { e with onNull := none }

/-- A property without it. -/
def property (p : PropertyMapping) : PropertyMapping :=
  { p with shape := p.shape.mapElements v.element }

/-- A report that one looks at; errors are always among them. -/
def shows (d : Diagnostic) : Bool :=
  v.variants || d.isError || d.code != .expressionOmission

/-- The reports that one looks at. -/
def reports (ds : List Diagnostic) : List Diagnostic := ds.filter v.shows

/-- A mapping without what one does not look at. -/
def mapping (m : Mapping) : Mapping :=
  { m with
    maxRecursionDepth := if v.variants then m.maxRecursionDepth else 0
    properties := m.properties.map v.property
    diagnostics := v.reports m.diagnostics }

/-- To look at everything. -/
def whole : View := ⟨true, true⟩

theorem element_mapDelegate (f : DelegateCall → DelegateCall) (e : ElementMapping) :
    v.element { e with strategy := e.strategy.map (Strategy.mapDelegate f) } =
      { v.element e with strategy := (v.element e).strategy.map (Strategy.mapDelegate f) } := by
  unfold element
  split <;> rfl

@[simp] theorem strategy_element (e : ElementMapping) : (v.element e).strategy = e.strategy := by
  unfold element
  split <;> rfl

theorem property_mapDelegates (f : DelegateCall → DelegateCall) (p : PropertyMapping) :
    v.property (p.mapDelegates f) = (v.property p).mapDelegates f := by
  simp only [property, PropertyMapping.mapDelegates, PropertyMapping.mapStrategies,
    Shape.mapElements_mapElements]
  congr 2
  funext e
  exact v.element_mapDelegate f e

@[simp] theorem strategies_property (p : PropertyMapping) :
    (v.property p).strategies = p.strategies := by
  simp [property, PropertyMapping.strategies, List.filterMap_map]

@[simp] theorem delegates_property (p : PropertyMapping) :
    (v.property p).delegates = p.delegates := by
  rw [PropertyMapping.delegates, strategies_property, PropertyMapping.delegates]

@[simp] theorem needsHelper_property (p : PropertyMapping) :
    (v.property p).needsHelper = p.needsHelper := by
  rw [PropertyMapping.needsHelper, strategies_property, PropertyMapping.needsHelper]

@[simp] theorem strategies_mapping (m : Mapping) : (v.mapping m).strategies = m.strategies := by
  simp [mapping, Mapping.strategies, List.flatMap_map]

@[simp] theorem delegates_mapping (m : Mapping) : (v.mapping m).delegates = m.delegates := by
  rw [Mapping.delegates, strategies_mapping, Mapping.delegates]

theorem hasErrors_reports (ds : List Diagnostic) :
    Diagnostic.hasErrors (v.reports ds) = Diagnostic.hasErrors ds := by
  rw [Diagnostic.hasErrors, reports, List.any_filter]
  congr 1
  funext d
  cases h : d.isError <;> simp [shows, h]

@[simp] theorem isValid_mapping (m : Mapping) : (v.mapping m).isValid = m.isValid :=
  congrArg not (v.hasErrors_reports m.diagnostics)

theorem mapping_mapDelegates (f : DelegateCall → DelegateCall) (m : Mapping) :
    v.mapping (m.mapDelegates f) = (v.mapping m).mapDelegates f := by
  simp only [mapping, Mapping.mapDelegates, List.map_map]
  congr 2
  funext p
  exact v.property_mapDelegates f p

theorem mapping_report (m : Mapping) (ds : List Diagnostic) :
    v.mapping (m.report ds) = (v.mapping m).report (v.reports ds) := by
  simp only [mapping, Mapping.report, reports, List.filter_append]

/-- A property as it is, if one looks at the policies. -/
theorem property_of_policies {v : View} (h : v.policies = true) : v.property = id := by
  have helement : v.element = id := funext fun e => if_pos h
  funext p
  rw [property, helement, p.shape.mapElements_id]
  rfl

theorem mapping_whole (m : Mapping) : whole.mapping m = m := by
  have hproperty : whole.property = id := property_of_policies rfl
  have hreports : whole.reports m.diagnostics = m.diagnostics :=
    List.filter_eq_self.mpr fun _ _ => rfl
  simp only [mapping, hproperty, hreports, List.map_id]
  rfl

end View

/-! ## 3. Parts -/

/-- The call of a mapping, as far as it is known: both arenas find its target, the same one under
both ids, it is in the part, and the call is bound to nothing else. -/
structure DelegateCall.Followed (σ : MappingId → MappingId) (P : MappingId → Prop) (a b : Arena)
    (d : DelegateCall) : Prop where
  find : b.find? d.key = (a.find? d.key).map σ
  closed : ∀ t, a.find? d.key = some t → P t
  bound : ∀ t, d.target = some t → a.find? d.key = some t

/-- **What the arena `a` has under the ids `P`, the arena `b` has under the ids `σ`**, but for what
one does not look at. -/
structure Arena.Part (v : View) (σ : MappingId → MappingId) (P : MappingId → Prop) (a b : Arena) :
    Prop where
  get : ∀ id, P id → ∃ m n, a.get? id = some m ∧ b.get? (σ id) = some n ∧
    v.mapping n = v.mapping (m.rename σ)
  calls : ∀ id m, P id → a.get? id = some m → ∀ d ∈ m.delegates, d.Followed σ P a b

namespace Arena.Part

variable {v : View} {σ : MappingId → MappingId} {P : MappingId → Prop} {a b : Arena}
  {id : MappingId} {m n : Mapping}

/-- What the other arena has for a mapping of the part. -/
theorem exists_of_get? (h : Part v σ P a b) (hP : P id) (hm : a.get? id = some m) :
    ∃ n, b.get? (σ id) = some n ∧ v.mapping n = v.mapping (m.rename σ) := by
  obtain ⟨m', n, hm', hn, hview⟩ := h.get id hP
  obtain rfl := Option.some.inj (hm.symm.trans hm')
  exact ⟨n, hn, hview⟩

theorem key_eq (hview : v.mapping n = v.mapping (m.rename σ)) : n.key = m.key := by
  have heq := congrArg Mapping.key hview
  exact heq

theorem isValid_eq (hview : v.mapping n = v.mapping (m.rename σ)) : n.isValid = m.isValid := by
  have heq := congrArg Mapping.isValid hview
  rwa [View.isValid_mapping, View.isValid_mapping] at heq

theorem delegates_eq (hview : v.mapping n = v.mapping (m.rename σ)) :
    n.delegates = m.delegates.map (DelegateCall.rename σ) := by
  have heq := congrArg Mapping.delegates hview
  rwa [View.delegates_mapping, View.delegates_mapping, Mapping.rename,
    Mapping.delegates_mapDelegates] at heq

/-- Two mappings of a part do not become one: their pairs of types differ. -/
theorem injective (h : Part v σ P a b) {i j : MappingId} (hi : P i) (hj : P j)
    (hij : σ i = σ j) : i = j := by
  obtain ⟨m, k, hm, hk, hview⟩ := h.get i hi
  obtain ⟨m', k', hm', hk', hview'⟩ := h.get j hj
  obtain rfl : k = k' := Option.some.inj (hk.symm.trans (hij ▸ hk'))
  exact id_unique hm hm' ((key_eq hview).symm.trans (key_eq hview'))

theorem injective_iff (h : Part v σ P a b) {i j : MappingId} (hi : P i) (hj : P j) :
    σ i = σ j ↔ i = j := ⟨h.injective hi hj, congrArg σ⟩

/-- **A change of both arenas keeps the part** if it keeps it mapping by mapping: the calls that a
changed mapping has are those that it had, bound perhaps to what is found for them. -/
theorem transform (h : Part v σ P a b) {f g : MappingId → Mapping → Mapping}
    (hf : ∀ id m, (f id m).key = m.key) (hg : ∀ id m, (g id m).key = m.key)
    (hview : ∀ id m n, P id → a.get? id = some m → b.get? (σ id) = some n →
      v.mapping n = v.mapping (m.rename σ) → v.mapping (g (σ id) n) = v.mapping ((f id m).rename σ))
    (hcalls : ∀ id m, P id → a.get? id = some m → ∀ d ∈ (f id m).delegates, ∃ e ∈ m.delegates,
      d.key = e.key ∧ ∀ t, d.target = some t → e.target = some t ∨ a.find? e.key = some t) :
    Part v σ P (a.transform f) (b.transform g) where
  get id hP := by
    obtain ⟨m, n, hm, hn, heq⟩ := h.get id hP
    refine ⟨f id m, g (σ id) n, ?_, ?_, hview id m n hP hm hn heq⟩
    · rw [get?_transform_of_key hf, hm]
      rfl
    · rw [get?_transform_of_key hg, hn]
      rfl
  calls id k hP hk d hd := by
    rw [get?_transform_of_key hf] at hk
    obtain ⟨m, hm, rfl⟩ := Option.map_eq_some_iff.mp hk
    obtain ⟨e, he, hkey, htarget⟩ := hcalls id m hP hm d hd
    have hfollow := h.calls id m hP hm e he
    refine ⟨?_, fun t ht => ?_, fun t ht => ?_⟩
    · rw [find?_transform, find?_transform, hkey]
      exact hfollow.find
    · rw [find?_transform, hkey] at ht
      exact hfollow.closed t ht
    · rw [find?_transform, hkey]
      exact (htarget t ht).elim (hfollow.bound t) fun hfound => hfound

/-- A change that leaves the properties alone leaves the calls alone. -/
theorem transform_of_properties (h : Part v σ P a b) {f g : MappingId → Mapping → Mapping}
    (hf : ∀ id m, (f id m).key = m.key) (hg : ∀ id m, (g id m).key = m.key)
    (hproperties : ∀ id m, (f id m).properties = m.properties)
    (hview : ∀ id m n, P id → a.get? id = some m → b.get? (σ id) = some n →
      v.mapping n = v.mapping (m.rename σ) →
        v.mapping (g (σ id) n) = v.mapping ((f id m).rename σ)) :
    Part v σ P (a.transform f) (b.transform g) := by
  refine h.transform hf hg hview fun id m _ _ d hd => ⟨d, ?_, rfl, fun t => .inl⟩
  rwa [Mapping.delegates, Mapping.strategies, hproperties] at hd

/-- **What keeps the part once keeps it any number of times.** -/
theorem iterate {f g : Arena → Arena}
    (hstep : ∀ a b, Part v σ P a b → Part v σ P (f a) (g b)) (h : Part v σ P a b) (n : Nat) :
    Part v σ P (f^[n] a) (g^[n] b) := by
  induction n generalizing a b with
  | zero => exact h
  | succ n ih => exact ih (hstep a b h)

/-! ## 4. Targets -/

theorem of_mem_targets (h : Part v σ P a b) (hP : P id) (hm : a.get? id = some m)
    {t : MappingId} (ht : t ∈ m.targets) : P t := by
  obtain ⟨d, hd, htarget⟩ := mem_targets_iff.mp ht
  have hfollow := h.calls id m hP hm d hd
  exact hfollow.closed t (hfollow.bound t htarget)

/-- The first occurrences under other ids, if these are different for different members. -/
theorem firsts_map {σ : MappingId → MappingId} {xs : List MappingId}
    (hσ : ∀ x ∈ xs, ∀ y ∈ xs, σ x = σ y → x = y) :
    Mapping.firsts (xs.map σ) = (Mapping.firsts xs).map σ := by
  induction xs with
  | nil => rfl
  | cons x rest ih =>
      have hrest := ih fun y hy z hz =>
        hσ y (List.mem_cons_of_mem x hy) z (List.mem_cons_of_mem x hz)
      rw [List.map_cons, Mapping.firsts, Mapping.firsts, hrest, List.map_cons, List.filter_map]
      congr 2
      refine List.filter_congr fun y hy => ?_
      have hmem : y ∈ rest := Mapping.mem_firsts.mp hy
      rw [Function.comp_apply, Bool.eq_iff_iff, bne_iff_ne, bne_iff_ne]
      exact not_congr ⟨hσ y (List.mem_cons_of_mem x hmem) x List.mem_cons_self, congrArg σ⟩

/-- **A mapping delegates to the same mappings** in both arenas. -/
theorem targets_eq (h : Part v σ P a b) (hP : P id) (hm : a.get? id = some m)
    (hview : v.mapping n = v.mapping (m.rename σ)) : n.targets = m.targets.map σ := by
  have htargets : n.delegates.filterMap DelegateCall.target =
      (m.delegates.filterMap DelegateCall.target).map σ := by
    rw [delegates_eq hview, List.filterMap_map, List.map_filterMap]
    rfl
  rw [Mapping.targets, htargets]
  refine firsts_map fun x hx y hy => h.injective ?_ ?_
  · exact h.of_mem_targets hP hm (Mapping.mem_firsts.mpr hx)
  · exact h.of_mem_targets hP hm (Mapping.mem_firsts.mpr hy)

theorem targetsOf_eq (h : Part v σ P a b) (hP : P id) :
    b.targetsOf (σ id) = (a.targetsOf id).map σ := by
  obtain ⟨m, n, hm, hn, hview⟩ := h.get id hP
  rw [targetsOf, targetsOf, hm, hn]
  exact h.targets_eq hP hm hview

theorem of_mem_targetsOf (h : Part v σ P a b) (hP : P id) {t : MappingId}
    (ht : t ∈ a.targetsOf id) : P t := by
  obtain ⟨m, hm, ht⟩ := mem_targetsOf_iff.mp ht
  exact h.of_mem_targets hP hm ht

theorem contains_map (h : Part v σ P a b) {xs : List MappingId} (hxs : ∀ x ∈ xs, P x) (hP : P id) :
    (xs.map σ).contains (σ id) = xs.contains id := by
  rw [Bool.eq_iff_iff, List.contains_iff_mem, List.contains_iff_mem]
  refine ⟨fun hmem => ?_, List.mem_map_of_mem⟩
  obtain ⟨x, hx, heq⟩ := List.mem_map.mp hmem
  exact h.injective (hxs x hx) hP heq ▸ hx

/-- **The walks** in both arenas go the same way, step by step. -/
theorem visit_eq (h : Part v σ P a b) (n : Nat) {seen stack : List MappingId}
    (hseen : ∀ x ∈ seen, P x) (hstack : ∀ x ∈ stack, P x) :
    b.visit n (seen.map σ) (stack.map σ) = (a.visit n seen stack).map σ ∧
      ∀ x ∈ a.visit n seen stack, P x := by
  induction n generalizing seen stack with
  | zero => exact ⟨(List.map_reverse).symm, fun x hx => hseen x (List.mem_reverse.mp hx)⟩
  | succ n ih =>
      cases stack with
      | nil => exact ⟨(List.map_reverse).symm, fun x hx => hseen x (List.mem_reverse.mp hx)⟩
      | cons x stack =>
          have hx : P x := hstack x List.mem_cons_self
          have hrest : ∀ y ∈ stack, P y := fun y hy => hstack y (List.mem_cons_of_mem x hy)
          have hcontains := h.contains_map hseen hx
          by_cases hmem : x ∈ seen
          · have hmem' : σ x ∈ seen.map σ := List.mem_map_of_mem hmem
            rw [List.map_cons, visit_seen hmem', visit_seen hmem]
            exact ih hseen hrest
          · have hmem' : σ x ∉ seen.map σ := fun hno => by
              rw [← List.contains_iff_mem, hcontains, List.contains_iff_mem] at hno
              exact hmem hno
            have hseen' : ∀ y ∈ x :: seen, P y := List.forall_mem_cons.mpr ⟨hx, hseen⟩
            have hfilter : (b.targetsOf (σ x)).filter
                  (fun t => !((x :: seen).map σ).contains t) =
                ((a.targetsOf x).filter fun t => !(x :: seen).contains t).map σ := by
              rw [h.targetsOf_eq hx, List.filter_map]
              congr 1
              refine List.filter_congr fun t ht => ?_
              rw [Function.comp_apply, h.contains_map hseen' (h.of_mem_targetsOf hx ht)]
            rw [List.map_cons, visit_new hmem', visit_new hmem, ← List.map_cons, hfilter,
              ← List.map_append]
            refine ih hseen' fun y hy => ?_
            rcases List.mem_append.mp hy with hy | hy
            · exact h.of_mem_targetsOf hx (List.mem_filter.mp hy).1
            · exact hrest y hy

/-- **What a mapping reaches** is the same in both arenas, in the same order. -/
theorem reachable_eq (h : Part v σ P a b) (hP : P id) :
    b.reachable (σ id) = (a.reachable id).map σ ∧ ∀ t ∈ a.reachable id, P t := by
  have hnil : ∀ x ∈ ([] : List MappingId), P x := fun x hx => absurd hx List.not_mem_nil
  have hstart : ∀ x ∈ [id], P x := fun x hx => List.mem_singleton.mp hx ▸ hP
  have hwalk := h.visit_eq (1 + a.unseenTargets [] + (1 + b.unseenTargets []) + 1) hnil hstart
  rw [Arena.reachable_eq (a := a) (n := 1 + a.unseenTargets [] + (1 + b.unseenTargets []) + 1)
      (by omega),
    Arena.reachable_eq (a := b) (n := 1 + a.unseenTargets [] + (1 + b.unseenTargets []) + 1)
      (by omega)]
  exact hwalk

end Arena.Part

end TypeMapper

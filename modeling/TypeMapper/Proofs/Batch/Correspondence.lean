import TypeMapper.Proofs.Arena.Part
import TypeMapper.Proofs.Batch.Phases
import TypeMapper.Proofs.Construction.Agreement
/-!
# Two runs, phase by phase

Every phase after construction looks at a mapping and at those it delegates to. So what one arena
has of another, it has of it after the phase. Where a phase is a loop, one round keeps the part, and
the loop is as many rounds as one likes, once they are enough.

* `Arena.bindAll_fst`, `asyncRounds_eq_iterate`, `rejectRounds_fst`: the loops are rounds.
* `Arena.Part.scan`, `asyncRound`, `rejectRound`: one round; `resolve`, `rejectDelegates`: the
  loops.
* `Arena.Part.parameterize`, `checkAll`: the phases that look at each mapping once.
* `Schema.Shares`, `Schema.Shares.part`: what two runs have to have in common, and that they build it
  in the same way.
* `Arena.Part.discover`: all phases, from construction on.
-/

namespace TypeMapper

/-- Where a round changes nothing, more rounds change nothing. -/
theorem iterate_of_fixed {α : Type} {f : α → α} {x : α} {n k : Nat} (h : f (f^[n] x) = f^[n] x)
    (hk : n ≤ k) : f^[k] x = f^[n] x := by
  obtain ⟨j, rfl⟩ := Nat.exists_eq_add_of_le' hk
  rw [Function.iterate_add_apply, Function.iterate_fixed h]

namespace Arena

variable {a b : Arena} {id t : MappingId} {m n : Mapping}

/-! ## 1. Loops as rounds -/

theorem scan_eq_self (h : a.scanCount = 0) : a.scan = a := by
  refine transform_eq_self fun i m hm => ?_
  refine (Mapping.mapDelegates_congr fun d hd => ?_).trans m.mapDelegates_id
  rw [bindCall, scanCount_eq_zero_iff.mp h i m hm d hd]
  rfl

theorem bindAll_fst (n : Nat) (a : Arena) : (bindAll n a).1 = scan^[n] a := by
  induction n generalizing a with
  | zero => rfl
  | succ n ih =>
      by_cases h0 : a.scanCount = 0
      · rw [bindAll_zero_scan h0, Function.iterate_fixed (scan_eq_self h0)]
      · rw [bindAll_next_scan h0]
        exact ih a.scan

/-- The calls are bound by any number of scans that suffices. -/
theorem exists_iterate_bindAll (h : a.SelfBound) :
    ∃ n, ∀ k, n ≤ k → (bindAll (a.pending + 1) a).1 = scan^[k] a := by
  refine ⟨a.pending + 1, fun k hk => ?_⟩
  obtain ⟨-, h0, -⟩ := scanned_bindAll (scanned_self h) (Nat.lt_succ_self a.pending)
  rw [bindAll_fst] at h0 ⊢
  exact (iterate_of_fixed (scan_eq_self h0) hk).symm

theorem asyncRound_eq_self (h : a.mappings.any a.mustFlip = false) : a.asyncRound = a :=
  transform_eq_self fun id m hm => by
    have hno := List.any_eq_false.mp h m (Arena.mem_mappings_of_get? hm)
    rw [if_neg hno]

theorem asyncRounds_eq_iterate (n : Nat) (a : Arena) : asyncRounds n a = asyncRound^[n] a := by
  induction n generalizing a with
  | zero => rfl
  | succ n ih =>
      unfold asyncRounds
      split
      · exact ih a.asyncRound
      · rename_i h
        exact (Function.iterate_fixed (asyncRound_eq_self (Bool.eq_false_iff.mpr h)) _).symm

/-- Asynchrony is spread by any number of rounds that suffices. -/
theorem exists_iterate_spreadAsync (a : Arena) :
    ∃ n, ∀ k, n ≤ k → a.spreadAsync = asyncRound^[k] a := by
  refine ⟨a.size + 1, fun k hk => ?_⟩
  have h0 := any_mustFlip_spreadAsync a
  rw [spreadAsync, asyncRounds_eq_iterate] at h0 ⊢
  exact (iterate_of_fixed (asyncRound_eq_self h0) hk).symm

theorem rejectRound_eq_self (h : a.rejectCount = 0) : a.rejectRound = a :=
  transform_eq_self fun id m hm => by rw [rejectOne, rejectCount_eq_zero_iff.mp h id m hm]

theorem rejectRounds_fst (n : Nat) (a : Arena) : (rejectRounds n a).1 = rejectRound^[n] a := by
  induction n generalizing a with
  | zero => rfl
  | succ n ih =>
      unfold rejectRounds
      by_cases h0 : a.rejectCount = 0
      · rw [if_pos h0, Function.iterate_fixed (rejectRound_eq_self h0)]
      · rw [if_neg h0]
        exact ih a.rejectRound

/-- Mappings are rejected by any number of rounds that suffices. -/
theorem exists_iterate_rejectDelegates (a : Arena) :
    ∃ n, ∀ k, n ≤ k → a.rejectDelegates.1 = rejectRound^[k] a := by
  refine ⟨a.size + 1, fun k hk => ?_⟩
  have h0 := a.rejectDelegates_closure.still
  rw [rejectDelegates, rejectRounds_fst] at h0 ⊢
  exact (iterate_of_fixed (rejectRound_eq_self h0) hk).symm

namespace Part

variable {v : View} {σ : MappingId → MappingId} {P : MappingId → Prop}

/-! ## 2. Resolution -/

theorem isResolved_eq (h : Part v σ P a b) (hP : P t) : b.isResolved (σ t) = a.isResolved t := by
  obtain ⟨m, n, hm, hn, hview⟩ := h.get t hP
  rw [isResolved, isResolved, hm, hn, Option.map_some, Option.map_some, Option.getD_some,
    Option.getD_some, Mapping.isResolved, Mapping.isResolved, delegates_eq hview, List.all_map]
  congr 1
  funext d
  exact d.isBound_rename σ

/-- **A scan binds the same calls** to the same mappings. -/
theorem bindable?_eq (h : Part v σ P a b) (hP : P id) {d : DelegateCall}
    (hd : d.Followed σ P a b) : b.bindable? (σ id) (d.rename σ) = (a.bindable? id d).map σ := by
  unfold bindable?
  rw [DelegateCall.isBound_rename, DelegateCall.rename_key, hd.find]
  cases d.isBound with
  | true => rfl
  | false =>
      cases hfound : a.find? d.key with
      | none => rfl
      | some t =>
          have ht := hd.closed t hfound
          simp only [Option.map_some, h.isResolved_eq ht, h.injective_iff ht hP]
          split
          · simp
          · split <;> rfl

theorem bindCall_eq (h : Part v σ P a b) (hP : P id) {d : DelegateCall}
    (hd : d.Followed σ P a b) : b.bindCall (σ id) (d.rename σ) = (a.bindCall id d).rename σ := by
  unfold bindCall
  rw [h.bindable?_eq hP hd]
  cases a.bindable? id d <;> rfl

/-- **One scan.** -/
theorem scan (h : Part v σ P a b) : Part v σ P a.scan b.scan := by
  refine h.transform (fun _ _ => rfl) (fun _ _ => rfl) (fun id m n hP hm _ hview => ?_)
    fun id m hP hm d hd => ?_
  · rw [View.mapping_mapDelegates, hview, Mapping.rename, Mapping.rename,
      View.mapping_mapDelegates, View.mapping_mapDelegates, View.mapping_mapDelegates,
      Mapping.mapDelegates_mapDelegates, Mapping.mapDelegates_mapDelegates]
    refine Mapping.mapDelegates_congr fun d hd => ?_
    rw [View.delegates_mapping] at hd
    exact h.bindCall_eq hP (h.calls id m hP hm d hd)
  · rw [Mapping.delegates_mapDelegates] at hd
    obtain ⟨e, he, rfl⟩ := List.mem_map.mp hd
    refine ⟨e, he, bindCall_key a id e, fun t ht => ?_⟩
    exact (bindCall_target ht).imp_right fun hnew => (bindable?_eq_some_iff.mp hnew).2.1

theorem isAsync_eq (h : Part v σ P a b) (hP : P t) : b.isAsync (σ t) = a.isAsync t := by
  obtain ⟨m, n, hm, hn, hview⟩ := h.get t hP
  have hflag := congrArg Mapping.isAsync hview
  rw [isAsync_of_get? hm, isAsync_of_get? hn]
  exact hflag

/-- **One round** makes the same mappings asynchronous. -/
theorem asyncRound (h : Part v σ P a b) : Part v σ P a.asyncRound b.asyncRound := by
  refine h.transform_of_properties (fun _ m => by split <;> rfl) (fun _ m => by split <;> rfl)
    (fun _ m => by split <;> rfl) fun id m n hP hm hn hview => ?_
  have hflip : b.mustFlip n = a.mustFlip m := by
    have hflag := congrArg Mapping.isAsync hview
    have hany : n.targets.any b.isAsync = m.targets.any a.isAsync := by
      rw [h.targets_eq hP hm hview, List.any_map, Bool.eq_iff_iff, List.any_eq_true,
        List.any_eq_true]
      refine exists_congr fun t => and_congr_right fun ht => ?_
      rw [Function.comp_apply, h.isAsync_eq (h.of_mem_targets hP hm ht)]
    rw [mustFlip, mustFlip, hany]
    exact congrArg (fun flag => !flag && m.targets.any a.isAsync) hflag
  rw [hflip]
  split
  · exact congrArg (fun k : Mapping => { k with isAsync := true }) hview
  · exact hview

/-- **Resolution**: the same calls are bound, and the same mappings are asynchronous. -/
theorem resolve (h : Part v σ P a b) (ha : a.SelfBound) (hb : b.SelfBound) :
    Part v σ P a.resolve.1 b.resolve.1 := by
  obtain ⟨i, hi⟩ := exists_iterate_bindAll ha
  obtain ⟨j, hj⟩ := exists_iterate_bindAll hb
  have hbound : Part v σ P (bindAll (a.pending + 1) a).1 (bindAll (b.pending + 1) b).1 := by
    rw [hi (i + j) (by omega), hj (i + j) (by omega)]
    exact iterate (fun _ _ => scan) h _
  obtain ⟨i, hi⟩ := exists_iterate_spreadAsync (bindAll (a.pending + 1) a).1
  obtain ⟨j, hj⟩ := exists_iterate_spreadAsync (bindAll (b.pending + 1) b).1
  show Part v σ P (bindAll (a.pending + 1) a).1.spreadAsync
    (bindAll (b.pending + 1) b).1.spreadAsync
  rw [hi (i + j) (by omega), hj (i + j) (by omega)]
  exact iterate (fun _ _ => asyncRound) hbound _

/-! ## 3. Parameters and checks -/

/-- A list of parameters takes the same from a mapping, whatever one does not look at. -/
theorem addAll_eq {root root' owner owner' : Mapping}
    (hroot : v.mapping root' = v.mapping (root.rename σ))
    (howner : v.mapping owner' = v.mapping (owner.rename σ)) (l : ParameterList) :
    l.addAll root' owner' = l.addAll root owner := by
  have hviews : l.addAll (v.mapping root') (v.mapping owner') =
      l.addAll (v.mapping (root.rename σ)) (v.mapping (owner.rename σ)) := by rw [hroot, howner]
  exact hviews

/-- **The parameters of a routine** are the same, under the same names. -/
theorem entryParameters_eq (h : Part v σ P a b) (hP : P id) :
    b.entryParameters (σ id) = a.entryParameters id := by
  obtain ⟨m, n, hm, hn, hview⟩ := h.get id hP
  obtain ⟨hreach, hall⟩ := h.reachable_eq hP
  have hfold : ∀ (ts : List MappingId) (l : ParameterList), (∀ t ∈ ts, P t) →
      (((ts.map σ).filterMap b.get?).foldl (ParameterList.addAll n) l) =
        ((ts.filterMap a.get?).foldl (ParameterList.addAll m) l) := by
    intro ts
    induction ts with
    | nil => exact fun l _ => rfl
    | cons t ts ih =>
        intro l hts
        obtain ⟨k, k', hk, hk', hview'⟩ := h.get t (hts t List.mem_cons_self)
        rw [List.map_cons, List.filterMap_cons_some hk', List.filterMap_cons_some hk,
          List.foldl_cons, List.foldl_cons, addAll_eq hview hview']
        exact ih _ fun u hu => hts u (List.mem_cons_of_mem t hu)
  unfold entryParameters
  rw [hn, hm, hreach]
  exact hfold _ _ hall

/-- **The phase of parameters.** -/
theorem parameterize (h : Part v σ P a b) : Part v σ P a.parameterize b.parameterize := by
  refine h.transform_of_properties (fun _ _ => rfl) (fun _ _ => rfl) (fun _ _ => rfl)
    fun id m n hP _ _ hview => ?_
  have hwith : ∀ k : Mapping, v.mapping (k.withParameters (a.entryParameters id)) =
      ({ v.mapping k with entryParameters := (a.entryParameters id).parameters } : Mapping).report
        (v.reports (a.entryParameters id).reports) := fun k => v.mapping_report _ _
  rw [h.entryParameters_eq hP]
  exact (hwith n).trans ((congrArg (fun k : Mapping => ({ k with
    entryParameters := (a.entryParameters id).parameters } : Mapping).report
      (v.reports (a.entryParameters id).reports)) hview).trans (hwith (m.rename σ)).symm)

end Part

end Arena

namespace Mapping

variable (m : Mapping) (c : Config)

theorem check_rename (σ : MappingId → MappingId) : (m.rename σ).check c = m.check c := by
  have hunbound : ∀ p : PropertyMapping,
      (m.rename σ).unboundReports (p.mapDelegates (DelegateCall.rename σ)) =
        m.unboundReports p := by
    intro p
    rw [unboundReports, PropertyMapping.delegates_mapDelegates, List.filter_map, List.map_map]
    have hbound : (fun d => !DelegateCall.isBound d) ∘ DelegateCall.rename σ =
        fun d => !d.isBound := funext fun d => congrArg not (d.isBound_rename σ)
    rw [hbound]
    rfl
  have homission : ∀ p : PropertyMapping,
      (m.rename σ).omissionReports c (p.mapDelegates (DelegateCall.rename σ)) =
        m.omissionReports c p := by
    intro p
    have hhelper : (p.mapDelegates (DelegateCall.rename σ)).needsHelper = p.needsHelper := by
      rw [PropertyMapping.needsHelper, PropertyMapping.mapDelegates,
        PropertyMapping.strategies_mapStrategies, List.any_map]
      refine congrArg (p.strategies.any ·) (funext fun s => ?_)
      cases s <;> rfl
    unfold omissionReports
    rw [hhelper]
    rfl
  have hempty : (m.rename σ).emptyReports = m.emptyReports := by
    have hnone : (m.rename σ).properties.isEmpty = m.properties.isEmpty := List.isEmpty_map
    unfold emptyReports
    rw [hnone]
    rfl
  rw [check, check, hempty, rename, mapDelegates, List.flatMap_map]
  refine congrArg (m.nameReports ++ m.emptyReports ++ ·) (congrArg m.properties.flatMap ?_)
  funext p
  exact congrArg₂ (· ++ ·) (hunbound p) (homission p)

end Mapping

namespace View

variable (v : View) (m : Mapping) {c c' : Config}

theorem check_mapping (c : Config) : (v.mapping m).check c = m.check c := by
  have hunbound : ∀ p, (v.mapping m).unboundReports (v.property p) = m.unboundReports p := by
    intro p
    rw [Mapping.unboundReports, delegates_property]
    rfl
  have homission : ∀ p, (v.mapping m).omissionReports c (v.property p) = m.omissionReports c p := by
    intro p
    unfold Mapping.omissionReports
    rw [needsHelper_property]
    rfl
  have hempty : (v.mapping m).emptyReports = m.emptyReports := by
    have hnone : (v.mapping m).properties.isEmpty = m.properties.isEmpty := List.isEmpty_map
    unfold Mapping.emptyReports
    rw [hnone, isValid_mapping]
    rfl
  have hproperties : (v.mapping m).properties = m.properties.map v.property := rfl
  rw [Mapping.check, Mapping.check, hempty, hproperties, List.flatMap_map]
  refine congrArg (m.nameReports ++ m.emptyReports ++ ·) (congrArg m.properties.flatMap ?_)
  funext p
  exact congrArg₂ (· ++ ·) (hunbound p) (homission p)

/-- What a check reports under two settings, as far as one looks at it. -/
theorem reports_check (hc : c.Follows v c') : v.reports (m.check c') = v.reports (m.check c) := by
  cases hv : v.variants with
  | true =>
      have hsame : m.omissionReports c' = m.omissionReports c := by
        funext p
        rw [Mapping.omissionReports, Mapping.omissionReports, (hc.variants hv).1]
      rw [Mapping.check, Mapping.check, hsame]
  | false =>
      -- what the expression leaves out is information that one does not look at
      have hhidden : ∀ (c : Config) p, v.reports (m.omissionReports c p) = [] := by
        intro c p
        refine List.filter_eq_nil_iff.mpr fun d hd => ?_
        unfold Mapping.omissionReports at hd
        split at hd
        · rw [List.mem_singleton.mp hd, shows, hv]
          exact Bool.false_ne_true
        · exact absurd hd List.not_mem_nil
      simp only [Mapping.check, reports, List.filter_append, List.filter_flatMap]
      refine congrArg _ (congrArg m.properties.flatMap (funext fun p => ?_))
      have h' := hhidden c' p
      have h := hhidden c p
      rw [reports] at h h'
      rw [h, h']

end View

namespace Arena.Part

variable {v : View} {σ : MappingId → MappingId} {P : MappingId → Prop} {a b : Arena}
  {id : MappingId} {m n : Mapping} {c c' : Config}

/-- **The phase of checks.** -/
theorem checkAll (h : Part v σ P a b) (hc : c.Follows v c') :
    Part v σ P (a.checkAll c) (b.checkAll c') := by
  refine h.transform_of_properties (fun _ _ => rfl) (fun _ _ => rfl) (fun _ _ => rfl)
    fun id m n _ _ _ hview => ?_
  have hcheck : n.check c' = m.check c' := by
    rw [← v.check_mapping, hview, v.check_mapping, m.check_rename]
  rw [v.mapping_report, hview, hcheck, v.reports_check m hc]
  exact (v.mapping_report _ _).symm

/-! ## 4. Rejection -/

/-- A mapping is stopped by the mapping of the same pair. -/
theorem rejectedTarget?_eq (h : Part v σ P a b) (hP : P id) (hm : a.get? id = some m)
    (hview : v.mapping n = v.mapping (m.rename σ)) :
    (b.rejectedTarget? (σ id) n).map Mapping.key = (a.rejectedTarget? id m).map Mapping.key := by
  unfold rejectedTarget?
  rw [isValid_eq hview]
  split
  · rename_i hv
    have htargets : n.targets.filter (· != σ id) = (m.targets.filter (· != id)).map σ := by
      rw [h.targets_eq hP hm hview, List.filter_map]
      congr 1
      refine List.filter_congr fun t ht => ?_
      rw [Function.comp_apply, Bool.eq_iff_iff, bne_iff_ne, bne_iff_ne]
      exact not_congr (h.injective_iff (h.of_mem_targets hP hm ht) hP)
    have hall : ∀ t ∈ m.targets.filter (· != id), P t := fun t ht =>
      h.of_mem_targets hP hm (List.mem_filter.mp ht).1
    rw [htargets]
    generalize m.targets.filter (· != id) = ts at hall
    induction ts with
    | nil => rfl
    | cons t ts ih =>
        obtain ⟨k, k', hk, hk', hview'⟩ := h.get t (hall t List.mem_cons_self)
        rw [List.map_cons, List.findSome?_cons, List.findSome?_cons, hk, hk', Option.filter_some,
          Option.filter_some, isValid_eq hview']
        cases k.isValid with
        | true => exact ih fun u hu => hall u (List.mem_cons_of_mem t hu)
        | false => exact congrArg some (key_eq hview')
  · rfl

/-- **One round** rejects the same mappings, for the same reason. -/
theorem rejectRound (h : Part v σ P a b) : Part v σ P a.rejectRound b.rejectRound := by
  refine h.transform_of_properties (rejectOne_key a) (rejectOne_key b) (rejectOne_properties a)
    fun id m n hP hm hn hview => ?_
  have htarget := h.rejectedTarget?_eq hP hm hview
  unfold rejectOne
  cases hs : a.rejectedTarget? id m with
  | none =>
      rw [hs, Option.map_none, Option.map_eq_none_iff] at htarget
      rw [htarget]
      exact hview
  | some k =>
      rw [hs, Option.map_some, Option.map_eq_some_iff] at htarget
      obtain ⟨k', hk', hkey⟩ := htarget
      have hreport : rejection n k' = rejection m k := by
        rw [rejection, rejection, Mapping.destination, Mapping.destination, hkey, key_eq hview]
      rw [hk']
      dsimp only
      rw [v.mapping_report, hview, hreport]
      exact (v.mapping_report _ _).symm

/-- **Rejection.** -/
theorem rejectDelegates (h : Part v σ P a b) :
    Part v σ P a.rejectDelegates.1 b.rejectDelegates.1 := by
  obtain ⟨i, hi⟩ := exists_iterate_rejectDelegates a
  obtain ⟨j, hj⟩ := exists_iterate_rejectDelegates b
  rw [hi (i + j) (by omega), hj (i + j) (by omega)]
  exact iterate (fun _ _ => rejectRound) h _

end Arena.Part

/-! ## 5. Whole runs -/

/-- What two runs have to have in common: the first one declares the mappings under the ids `P`, the
second one the same mappings under the ids `σ`. -/
structure Schema.Shares (v : View) (σ : MappingId → MappingId) (P : MappingId → Prop)
    (K : String → Prop) (s t : Schema) (c c' : Config) : Prop where
  schemas : s.AgreesOn K t
  config : c.Follows v c'
  /-- The pairs at paths of the set are declared in both, or in none. -/
  find : ∀ k : MappingKey, k.Within K → t.declared.find? k = (s.declared.find? k).map σ
  get : ∀ id, P id → ∃ m, s.declared.get? id = some m ∧ m.key.Within K ∧
    t.declared.get? (σ id) = some m
  /-- With a mapping the part has those that it delegates to. -/
  closed : ∀ id m, P id → (s.built c).get? id = some m → ∀ d ∈ m.delegates,
    ∀ j, s.declared.find? d.key = some j → P j
  /-- One looks at the policies, or no construction in the part finds an error. -/
  looks : v.policies = true ∨
    ∀ id m, P id → (s.built c).get? id = some m → m.isValid = true

namespace Schema

variable {v : View} {σ : MappingId → MappingId} {P : MappingId → Prop} {K : String → Prop}
  {s t : Schema} {c c' : Config} {id : MappingId} {m : Mapping}

theorem find?_built (s : Schema) (c : Config) (k : MappingKey) :
    (s.built c).find? k = s.declared.find? k := Arena.find?_transform _ _ _

theorem contains_declared (s : Schema) (k : MappingKey) :
    s.declared.keys.contains k = (s.declared.find? k).isSome := by
  rw [Bool.eq_iff_iff, List.contains_iff_mem, Arena.mem_keys_iff, Option.isSome_iff_exists]

/-- **What two runs have in common they build in the same way.** -/
theorem Shares.part (h : Shares v σ P K s t c c') : Arena.Part v σ P (s.built c) (t.built c') := by
  have hcontext : (s.context c).Follows v K (t.context c') := by
    refine ⟨h.schemas, h.config, fun k hk => ?_⟩
    show t.declared.keys.contains k = s.declared.keys.contains k
    rw [contains_declared, contains_declared, h.find k hk, Option.isSome_map]
  have hbuilt : ∀ id, P id → ∃ (m : Mapping) (source destination : TypeDecl),
      (s.built c).get? id = some (m.buildFrom (s.context c) id source destination) ∧
      (t.built c').get? (σ id) = some (m.buildFrom (t.context c') (σ id) source destination) ∧
      v.mapping (m.buildFrom (t.context c') (σ id) source destination) =
        v.mapping ((m.buildFrom (s.context c) id source destination).rename σ) ∧
      ∀ d ∈ (m.buildFrom (s.context c) id source destination).delegates, d.key.Within K := by
    intro id hP
    obtain ⟨m, hm, hwithin, hm'⟩ := h.get id hP
    obtain ⟨source, destination, hs, hd, hget⟩ := get?_built_of_declared (c := c) hm
    obtain ⟨source', destination', hs', hd', hget'⟩ := get?_built_of_declared (c := c') hm'
    obtain rfl : source' = source := Option.some.inj <|
      hs'.symm.trans ((h.schemas.types _ hwithin.1).trans hs)
    obtain rfl : destination' = destination := Option.some.inj <|
      hd'.symm.trans ((h.schemas.types _ hwithin.2).trans hd)
    have hnew : m.properties = [] := by
      obtain ⟨d, -, rfl⟩ := get?_declared hm
      rfl
    exact ⟨m, source', destination', hget, hget', Mapping.view_buildFrom hcontext hwithin hnew
      (h.looks.imp_right fun hvalid => hvalid id _ hP hget)⟩
  refine ⟨fun id hP => ?_, fun id m hP hm d hd => ?_⟩
  · obtain ⟨m, source, destination, hm, hn, hview, -⟩ := hbuilt id hP
    exact ⟨_, _, hm, hn, hview⟩
  · obtain ⟨m', source, destination, hm', -, -, hkeys⟩ := hbuilt id hP
    obtain rfl := Option.some.inj (hm.symm.trans hm')
    refine ⟨?_, fun j hj => ?_, fun j hj => ?_⟩
    · rw [find?_built, find?_built]
      exact h.find d.key (hkeys d hd)
    · rw [find?_built] at hj
      exact h.closed id _ hP hm d hd j hj
    · -- construction binds nothing but calls of a mapping to itself
      have hself := s.selfBound_built c (id, _) (Arena.mem_entries_iff.mpr hm) d hd
        (DelegateCall.isBound_iff.mpr ⟨j, hj⟩)
      subst hself
      obtain rfl := Option.some.inj hj
      exact Arena.find?_eq_some_iff.mpr ⟨_, hm, rfl⟩

end Schema

/-- **What is the same after construction** is the same at the end. -/
theorem Arena.Part.discover {v : View} {σ : MappingId → MappingId} {P : MappingId → Prop}
    {s t : Schema} {c c' : Config} (h : Part v σ P (s.built c) (t.built c')) (hc : c.Follows v c') :
    Part v σ P (Batch.discover s c).arena (Batch.discover t c').arena := by
  have hresolved : Part v σ P (s.resolved c) (t.resolved c') :=
    h.resolve (s.selfBound_built c) (t.selfBound_built c')
  rw [Batch.discover_arena, Batch.discover_arena]
  exact (hresolved.parameterize.checkAll hc).rejectDelegates

end TypeMapper

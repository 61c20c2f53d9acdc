import Mathlib.Data.List.Nodup
import TypeMapper.Proofs.Directive
/-!
# Matching misses no destination

A matching without leftovers and without errors has one pair for every destination property that is
not left out, in their order. Names that several destinations share and destinations that several
sources claim are errors; a destination that nothing claims is a leftover.

* `Sides.mem_repeated_iff`: the names that are reported as shared.
* `Sides.nodup_targets`, `Sides.claimers_le_one`: what the absence of errors says.
* `Sides.pathClaim?_eq_some_iff`, `Sides.sourceClaim?_eq_some_iff`, `Sides.fate_eq_claims_iff`:
  what claims come from; `Sides.exists_of_mem_pairs`: what pairs come from.
* `matchProperties_complete`: the pairs of a matching without errors.
* `source_ne_nil_of_mem_pairs`: the chain of a pair has a link.
-/

namespace TypeMapper

/-- Reports on errors are no errors only if there are none. -/
theorem Diagnostic.eq_nil_of_hasErrors {ds : List Diagnostic} (h : hasErrors ds = false)
    (hall : ∀ d ∈ ds, d.isError = true) : ds = [] := by
  refine List.eq_nil_iff_forall_not_mem.mpr fun d hd => ?_
  have herr : hasErrors ds = true := List.any_eq_true.mpr ⟨d, hd, hall d hd⟩
  exact absurd (herr.symm.trans h) Bool.noConfusion

namespace Sides

variable {schema : Schema} {s : Sides} {d : Property × PropertyDirectives}

/-! ## 1. Shared names -/

/-- Names are repeated that were seen and come again, or that come twice, unless that is told. -/
theorem mem_repeated_iff {ns seen told : List String} {n : String} :
    n ∈ repeated seen told ns ↔ n ∉ told ∧ (n ∈ seen ∧ n ∈ ns ∨ 1 < ns.count n) := by
  induction ns generalizing seen told with
  | nil => simp [repeated]
  | cons x rest ih =>
      unfold repeated
      by_cases hn : n = x
      · subst hn
        split
        · rename_i hseen
          rw [List.contains_iff_mem] at hseen
          split
          · rename_i htold
            rw [List.contains_iff_mem] at htold
            exact iff_of_false (fun h => (ih.mp h).1 htold) fun h => h.1 htold
          · rename_i htold
            rw [List.contains_iff_mem] at htold
            exact iff_of_true List.mem_cons_self
              ⟨htold, .inl ⟨hseen, List.mem_cons_self⟩⟩
        · rename_i hseen
          rw [List.contains_iff_mem] at hseen
          rw [ih, List.count_cons_self]
          refine and_congr_right fun _ => ⟨fun h => .inr ?_, fun h => .inl ⟨List.mem_cons_self, ?_⟩⟩
          · rcases h with ⟨-, hin⟩ | hlt
            · exact Nat.succ_lt_succ (List.count_pos_iff.mpr hin)
            · exact Nat.lt_succ_of_lt hlt
          · rcases h with ⟨hin, -⟩ | hlt
            · exact absurd hin hseen
            · exact List.count_pos_iff.mp (Nat.lt_of_succ_lt_succ hlt)
      · have hother : (x :: rest).count n = rest.count n := List.count_cons_of_ne (Ne.symm hn)
        have hmem : n ∈ x :: rest ↔ n ∈ rest := List.mem_cons.trans (or_iff_right hn)
        rw [hother, hmem]
        split
        · split
          · exact ih
          · rw [List.mem_cons, or_iff_right hn, ih, List.mem_cons, or_iff_right hn]
        · rw [ih, List.mem_cons, or_iff_right hn]

/-- Without errors no two destinations share a name. -/
theorem nodup_targets (h : Diagnostic.hasErrors s.duplicateReports = false) : s.targets.Nodup := by
  have hnil : s.duplicateReports = [] := Diagnostic.eq_nil_of_hasErrors h fun d hd => by
    obtain ⟨n, -, rfl⟩ := List.mem_map.mp hd
    rfl
  refine List.nodup_iff_count_le_one.mpr fun n => Nat.not_lt.mp fun hlt => ?_
  have hin : n ∈ repeated [] [] s.targets := mem_repeated_iff.mpr ⟨List.not_mem_nil, .inr hlt⟩
  exact List.ne_nil_of_mem hin (List.map_eq_nil_iff.mp hnil)

/-- Where no two destinations share a name, a destination is ignored on its own. -/
theorem isIgnored_eq (h : s.targets.Nodup) (hd : d ∈ s.destinations) :
    s.isIgnored d.1.name = (s.typeDirectives.ignoredTargets.contains d.1.name || d.2.ignore) := by
  have hname : s.hasTarget d.1.name = true :=
    List.contains_iff_mem.mpr (List.mem_map_of_mem (f := fun d => d.1.name) hd)
  have hany : (s.destinations.any fun e => e.1.name == d.1.name && e.2.ignore) = d.2.ignore := by
    rw [Bool.eq_iff_iff, List.any_eq_true]
    constructor
    · rintro ⟨e, he, hand⟩
      rw [Bool.and_eq_true, beq_iff_eq] at hand
      exact List.inj_on_of_nodup_map h he hd hand.1 ▸ hand.2
    · exact fun hi => ⟨d, hd, by simp [hi]⟩
  rw [isIgnored, hname, hany, Bool.and_true]

theorem openDestinations_eq (h : s.targets.Nodup) : s.openDestinations =
    s.destinations.filter fun d =>
      !(s.typeDirectives.ignoredTargets.contains d.1.name || d.2.ignore) := by
  refine List.filter_congr fun d hd => ?_
  have hcount : s.isDuplicated d.1.name = false :=
    decide_eq_false (Nat.not_lt.mpr (List.nodup_iff_count_le_one.mp h _))
  rw [isIgnored_eq h hd, hcount, Bool.not_false, Bool.and_true]

/-! ## 2. Destinations -/

/-- Without errors no two sources claim a destination. -/
theorem claimers_le_one
    (h : Diagnostic.hasErrors (s.openDestinations.filterMap (s.conflictReport? schema)) = false)
    (hd : d ∈ s.openDestinations) : (s.claimers schema d.1.name).length ≤ 1 := by
  refine Nat.not_lt.mp fun hlt => ?_
  have hnil := Diagnostic.eq_nil_of_hasErrors h fun r hr => by
    obtain ⟨e, -, he⟩ := List.mem_filterMap.mp hr
    unfold conflictReport? at he
    dsimp only at he
    split at he
    · rw [← Option.some.inj he]
      rfl
    · cases he
  have hnone := List.filterMap_eq_nil_iff.mp hnil d hd
  simp only [conflictReport?, if_pos hlt] at hnone
  cases hnone

theorem claimers_ne_nil (h : s.leftovers schema = []) (hd : d ∈ s.openDestinations) :
    s.claimers schema d.1.name ≠ [] := by
  have hnil := List.filter_eq_nil_iff.mp (List.map_eq_nil_iff.mp h) d hd
  exact fun he => hnil (List.isEmpty_iff.mpr he)

/-- **Without leftovers and errors every destination that takes part has its pair.** -/
theorem map_destination_pairs (hl : s.leftovers schema = [])
    (hc : Diagnostic.hasErrors (s.openDestinations.filterMap (s.conflictReport? schema)) = false) :
    (s.pairs schema).map PropertyMatch.destination = s.openDestinations.map Prod.fst := by
  rw [pairs, List.map_filterMap, ← List.filterMap_eq_map]
  refine List.filterMap_congr fun d hd => ?_
  have hle := claimers_le_one hc hd
  have hne := claimers_ne_nil hl hd
  unfold pair?
  cases hcs : s.claimers schema d.1.name with
  | nil => exact absurd hcs hne
  | cons c rest =>
      cases rest with
      | nil => rfl
      | cons c' rest =>
          rw [hcs, List.length_cons, List.length_cons] at hle
          omega

end Sides

/-! ## 3. Claims and chains -/

theorem exists_ok_of_bind {ε α β : Type} {x : Except ε α} {f : α → Except ε β} {b : β}
    (h : x >>= f = .ok b) : ∃ a, x = .ok a ∧ f a = .ok b := by
  cases x with
  | error e => cases h
  | ok a => exact ⟨a, rfl, h⟩

/-- A chain that a path leads along has a link. -/
theorem Schema.walk_ne_nil {s : Schema} {root path : String} {hops : List Property}
    (h : s.walk root path = .ok hops) : hops ≠ [] := by
  unfold walk PropertyPath.segments at h
  cases hs : PropertyPath.segmentChars path.toList with
  | nil => exact absurd hs (PropertyPath.segmentChars_ne_nil _)
  | cons name rest =>
      rw [hs, List.map_cons, walkNames] at h
      obtain ⟨p, -, h⟩ := exists_ok_of_bind h
      obtain ⟨ps, -, h⟩ := exists_ok_of_bind h
      rw [← Except.ok.inj h]
      exact List.cons_ne_nil p ps

/-- A property of the source claims the destination property of a name. -/
def Property.claims (q : Property) (owner : String) (index : Option UInt32) (name : String) :
    Bool :=
  !q.isIgnored index && (q.effective owner index).1.targetName q == name

namespace Sides

variable {schema : Schema} {s : Sides}

theorem pathClaim?_eq_some_iff {p : PathDirective} {c : Claim} :
    s.pathClaim? schema p = some c ↔ ∃ hops, schema.walk s.key.source p.path = .ok hops ∧
      ⟨p.target, hops, PropertyDirectives.none⟩ = c := by
  unfold pathClaim?
  cases schema.walk s.key.source p.path with
  | error e => exact iff_of_false nofun nofun
  | ok hops => simp only [Option.some.injEq, Except.ok.injEq, exists_eq_left']

theorem sourceClaim?_eq_some_iff {q : Property × PropertyDirectives} {c : Claim} :
    s.sourceClaim? schema q = some c ↔
      ∃ target, s.fate schema q = .claims target ∧ ⟨target, [q.1], q.2⟩ = c := by
  unfold sourceClaim?
  cases s.fate schema q with
  | claims target => simp only [Option.some.injEq, Fate.claims.injEq, exists_eq_left']
  | ignored | root | unclaimed => exact iff_of_false nofun nofun

/-- **What a source property claims**: the destination of its target, which there is, unless the
property or its target is ignored. -/
theorem fate_eq_claims_iff {q : Property × PropertyDirectives} {target : String} :
    s.fate schema q = .claims target ↔ q.2.ignore = false ∧ q.2.targetName q.1 = target ∧
      s.isIgnored target = false ∧ s.hasTarget target = true := by
  unfold fate
  dsimp only
  constructor
  · intro h
    split at h
    · cases h
    · rename_i hno
      rw [Bool.or_eq_true, not_or, Bool.not_eq_true, Bool.not_eq_true] at hno
      split at h
      · rename_i hname
        obtain rfl := Fate.claims.inj h
        exact ⟨hno.1, rfl, hno.2, hname⟩
      · split at h <;> cases h
  · rintro ⟨hignore, rfl, hopen, hname⟩
    rw [hignore, hopen, hname]
    rfl

theorem source_ne_nil_of_mem_claims {c : Claim} (hc : c ∈ s.claims schema) : c.source ≠ [] := by
  rcases List.mem_append.mp hc with hc | hc
  · obtain ⟨p, -, hp⟩ := List.mem_filterMap.mp hc
    obtain ⟨hops, hwalk, rfl⟩ := pathClaim?_eq_some_iff.mp hp
    exact Schema.walk_ne_nil hwalk
  · obtain ⟨q, -, hq⟩ := List.mem_filterMap.mp hc
    obtain ⟨target, -, rfl⟩ := sourceClaim?_eq_some_iff.mp hq
    exact List.cons_ne_nil _ _

/-- A destination that takes part is there and not ignored. -/
theorem isIgnored_and_hasTarget_of_open {d : Property × PropertyDirectives}
    (hd : d ∈ s.openDestinations) : s.isIgnored d.1.name = false ∧ s.hasTarget d.1.name = true := by
  obtain ⟨hmem, hopen⟩ := List.mem_filter.mp hd
  rw [Bool.and_eq_true, Bool.not_eq_true'] at hopen
  exact ⟨hopen.1, List.contains_iff_mem.mpr (List.mem_map_of_mem (f := fun d => d.1.name) hmem)⟩

/-- A pair is that of a destination that takes part and its only claim. -/
theorem exists_of_mem_pairs {m : PropertyMatch} (hm : m ∈ s.pairs schema) :
    ∃ d ∈ s.openDestinations, ∃ c, s.claimers schema d.1.name = [c] ∧ m = pairOf d c := by
  obtain ⟨d, hd, hp⟩ := List.mem_filterMap.mp hm
  unfold pair? at hp
  split at hp
  · rename_i c hc
    exact ⟨d, hd, c, hc, (Option.some.inj hp).symm⟩
  · cases hp

/-- **The chain of a pair has a link.** -/
theorem source_ne_nil_of_mem_pairs {m : PropertyMatch} (hm : m ∈ s.pairs schema) :
    m.source ≠ [] := by
  obtain ⟨d, -, c, hcs, rfl⟩ := exists_of_mem_pairs hm
  have hc : c ∈ s.claimers schema d.1.name := hcs ▸ List.mem_cons_self
  exact source_ne_nil_of_mem_claims (List.mem_filter.mp hc).1

end Sides

/-! ## 4. Matchings -/

/-- **A matching without leftovers and errors** has one pair for every destination property that is
not left out, and no two of them share a name. -/
theorem matchProperties_complete (s : Schema) (key : MappingKey) (index : Option UInt32)
    (hl : (matchProperties s key index).leftovers = [])
    (hr : Diagnostic.hasErrors (matchProperties s key index).reports = false) :
    (matchProperties s key index).pairs.map PropertyMatch.destination
      = (s.settable key.destination).filter (fun p => !s.leavesOut key index p) ∧
    ((s.settable key.destination).map Property.name).Nodup := by
  simp only [matchProperties, Diagnostic.hasErrors_append, Bool.or_eq_false_iff] at hl hr ⊢
  have hdup : Diagnostic.hasErrors (Sides.ofSchema s key index).duplicateReports = false :=
    hr.1.1.1.2
  have hnodup := Sides.nodup_targets hdup
  have hnames : (Sides.ofSchema s key index).targets
      = (s.settable key.destination).map Property.name := List.map_map
  refine ⟨?_, hnames ▸ hnodup⟩
  rw [Sides.map_destination_pairs hl hr.2, Sides.openDestinations_eq hnodup]
  show (((s.settable key.destination).map (withDirectives key.destination index)).filter _).map
    Prod.fst = _
  rw [List.filter_map, List.map_map]
  refine (List.map_id _).trans (List.filter_congr fun p _ => ?_)
  have hignored : (Sides.ofSchema s key index).typeDirectives.ignoredTargets.contains p.name =
      [key.source, key.destination].any fun path =>
        (s.type? path).any fun t => t.ignoresName index p.name := by
    rw [Bool.eq_iff_iff, List.contains_iff_mem]
    exact Schema.mem_ignoredTargets_iff
  rw [Function.comp_apply, Schema.leavesOut, ← hignored, Bool.or_comm, ← p.effective_ignore]
  rfl

end TypeMapper

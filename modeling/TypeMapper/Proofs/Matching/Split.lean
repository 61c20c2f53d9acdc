import Mathlib.Data.List.Count
import TypeMapper.Proofs.Matching
import TypeMapper.Proofs.Matching.Codes
/-!
# Matching splits both sides

Nothing is lost in a matching and nothing is counted twice. A destination name has a lot, which
depends on the properties of the name and on its claimers: the valid paths that target it, and the
source properties of which it is the target. A source property has a fate. Both are read off the
schema here, without the loops of matching.

* `Schema.lot`, `Schema.fate`: what the schema says of names and of source properties.
* `Matching.HasLot`: how pairs, leftovers and reports show the lot of a name.
* `Schema.claimers_perm`, `Schema.fate_eq`: the claims of a matching are those of the claimers, and
  its fates are those fates.
* `matchProperties_splits`: the split of both sides.
-/

namespace TypeMapper

/-! ## 1. Lots and fates -/

/-- What a destination name comes to. -/
inductive Lot where
  /-- No settable property has the name, or it is ignored. -/
  | out
  /-- More than one settable property has the name. -/
  | shared
  /-- Nothing claims the property. -/
  | leftover
  /-- One chain of source properties claims the property. -/
  | paired (chain : List Property)
  /-- More than one chain claims the property. -/
  | contested
  deriving DecidableEq, Repr

/-- The lot of a destination name that takes part, by its claimers. -/
def Lot.ofClaimers : List (List Property) → Lot
  | [] => .leftover
  | [chain] => .paired chain
  | _ => .contested

/-- The order of the claimers does not matter. -/
theorem Lot.ofClaimers_perm {xs ys : List (List Property)} (h : xs.Perm ys) :
    ofClaimers xs = ofClaimers ys := by
  induction h with
  | nil => rfl
  | @cons x xs ys h _ =>
      cases xs with
      | nil => rw [h.nil_eq]
      | cons x' xs =>
          cases ys with
          | nil => cases h.eq_nil
          | cons y ys => rfl
  | swap x y xs => rfl
  | trans _ _ ih ih' => exact ih.trans ih'

namespace Schema

variable (s : Schema) (key : MappingKey) (index : Option UInt32)

/-- The names of the destination properties. -/
def targets : List String := (s.settable key.destination).map Property.name

/-- Some destination property of the name is left out. -/
def leavesOutName (name : String) : Bool :=
  (s.settable key.destination).any fun p => p.name == name && s.leavesOut key index p

/-- The valid path directives, each as its target and the chain along its path: the target is there
and not left out, and the path can be walked. -/
def chains : List (String × List Property) :=
  (s.paths key index).filterMap fun d =>
    if (s.targets key).contains d.target && !s.leavesOutName key index d.target then
      (s.walk key.source d.path).toOption.map fun hops => (d.target, hops)
    else none

/-- The claimers of a destination name, as chains: the valid paths to it, and the source properties
of which it is the target, unless they are ignored. -/
def claimers (name : String) : List (List Property) :=
  ((s.chains key index).filter fun c => c.1 == name).map Prod.snd ++
    ((s.readable key.source).filter fun p => p.claims key.source index name).map fun p => [p]

/-- The lot of a destination name. -/
def lot (name : String) : Lot :=
  if 1 < (s.targets key).count name then .shared
  else if !(s.targets key).contains name || s.leavesOutName key index name then .out
  else .ofClaimers (s.claimers key index name)

/-- A source property of the name is the root of a valid path. -/
def startsPath (name : String) : Bool :=
  (s.chains key index).any fun c => c.2.head?.any fun p => p.name == name

/-- The fate of a source property: it is ignored, or its target is; or it claims its target; or a
valid path starts at it; or none of these. -/
def fate (p : Property) : Sides.Fate :=
  let target := (p.effective key.source index).1.targetName p
  if p.isIgnored index || s.leavesOutName key index target then .ignored
  else if (s.targets key).contains target then .claims target
  else if s.startsPath key index p.name then .root
  else .unclaimed

/-- The source properties of some fate. -/
def fated (test : Sides.Fate → Bool) : List Property :=
  (s.readable key.source).filter fun p => test (s.fate key index p)

end Schema

/-- The fate is a claim. -/
def Sides.Fate.isClaim : Sides.Fate → Bool
  | .claims _ => true
  | _ => false

/-- A report that the destination of a name is in conflict. -/
def Diagnostic.isConflictAt (owner name : String) (d : Diagnostic) : Bool :=
  d.code == .conflictingTargetName && d.location == Location.ofProperty owner name

namespace Matching

/-- The pairs of a destination name. -/
def pairsAt (m : Matching) (name : String) : List PropertyMatch :=
  m.pairs.filter fun p => p.destination.name == name

/-- The conflicts that are reported for a destination name. -/
def conflictsAt (m : Matching) (owner name : String) : List Diagnostic :=
  m.reports.filter (Diagnostic.isConflictAt owner name)

/-- **How a matching shows the lot of a destination name**: a name with one claimer is in one pair,
with the chain that claims it; one without is in the leftovers once; and for one that is shared or
contested there is one report, on an error. A name is in no other place. -/
def HasLot (m : Matching) (owner name : String) : Lot → Prop
  | .paired chain => (m.pairsAt name).map PropertyMatch.source = [chain] ∧ name ∉ m.leftovers ∧
      m.conflictsAt owner name = []
  | .leftover => m.pairsAt name = [] ∧ m.leftovers.count name = 1 ∧ m.conflictsAt owner name = []
  | .out => m.pairsAt name = [] ∧ name ∉ m.leftovers ∧ m.conflictsAt owner name = []
  | .shared | .contested => m.pairsAt name = [] ∧ name ∉ m.leftovers ∧
      ∃ d, m.conflictsAt owner name = [d] ∧ d.severity = .error

/-- Whatever the lot is, there is one pair of a name at most. -/
theorem HasLot.length_pairsAt_le {m : Matching} {owner name : String} {lot : Lot}
    (h : m.HasLot owner name lot) : (m.pairsAt name).length ≤ 1 := by
  cases lot with
  | paired chain =>
      have hlength := congrArg List.length h.1
      rw [List.length_map] at hlength
      exact Nat.le_of_eq hlength
  | out | shared | leftover | contested =>
      rw [h.1]
      exact Nat.zero_le 1

/-- **A matching splits both sides** as the schema says. -/
structure Splits (m : Matching) (s : Schema) (key : MappingKey) (index : Option UInt32) : Prop where
  /-- Pairs are for destination properties. -/
  settable : ∀ p ∈ m.pairs, p.destination ∈ s.settable key.destination
  /-- Every destination name has its lot. -/
  lots : ∀ name, m.HasLot key.destination name (s.lot key index name)
  ignored : m.ignored = (s.fated key index (· == .ignored)).map Property.name
  unclaimed : m.unclaimed = (s.fated key index (· == .unclaimed)).map Property.name
  /-- Every source property is in one of four parts. -/
  sources : (m.ignored ++ (s.fated key index Sides.Fate.isClaim).map Property.name ++
    (s.fated key index (· == .root)).map Property.name ++ m.unclaimed).Perm
      ((s.readable key.source).map Property.name)

end Matching

/-! ## 2. The destinations of a name -/

theorem filter_filterMap_of {α β : Type} {g : α → Option β} {t : β → Bool} {u : α → Bool}
    (h : ∀ a b, g a = some b → t b = u a) (l : List α) :
    (l.filterMap g).filter t = (l.filter u).filterMap g := by
  rw [List.filter_filterMap, List.filterMap_filter]
  refine List.filterMap_congr fun a _ => ?_
  cases hg : g a with
  | none => simp
  | some b => rw [Option.filter_some, h a b hg]

namespace Sides

variable (schema : Schema) (s : Sides) (n : String)

/-- The destinations of a name that take part. -/
def openAt : List (Property × PropertyDirectives) :=
  s.openDestinations.filter fun d => d.1.name == n

theorem openAt_eq : s.openAt n =
    if !s.isIgnored n && !s.isDuplicated n then s.destinations.filter fun d => d.1.name == n
    else [] := by
  have h : s.openAt n = s.destinations.filter fun d =>
      d.1.name == n && (!s.isIgnored n && !s.isDuplicated n) := by
    rw [openAt, openDestinations, List.filter_filter]
    refine List.filter_congr fun d _ => ?_
    cases hn : d.1.name == n with
    | false => rfl
    | true => rw [eq_of_beq hn]
  rw [h]
  split
  · rename_i hopen
    simp only [hopen, Bool.and_true]
  · rename_i hopen
    simp only [eq_false_of_ne_true hopen, Bool.and_false, List.filter_false]

theorem length_destinations_at :
    (s.destinations.filter fun d => d.1.name == n).length = s.targets.count n := by
  rw [targets, List.count, List.countP_map, List.countP_eq_length_filter]
  rfl

/-- A name that takes part has one destination. -/
theorem exists_openAt (hopen : s.isIgnored n = false) (hcount : s.targets.count n = 1) :
    ∃ d, d.1.name = n ∧ s.openAt n = [d] := by
  have hdup : s.isDuplicated n = false := decide_eq_false (by omega)
  obtain ⟨d, hd⟩ := List.length_eq_one_iff.mp ((s.length_destinations_at n).trans hcount)
  have hmem : d ∈ s.destinations.filter fun d => d.1.name == n := hd ▸ List.mem_singleton_self d
  refine ⟨d, eq_of_beq (List.mem_filter.mp hmem).2, ?_⟩
  rw [openAt_eq, hopen, hdup]
  exact hd

theorem pairs_at : (s.pairs schema).filter (fun m => m.destination.name == n) =
    (s.openAt n).filterMap (s.pair? schema) := by
  refine filter_filterMap_of (fun d m h => ?_) s.openDestinations
  unfold pair? at h
  split at h
  · rw [← Option.some.inj h]
    rfl
  · cases h

theorem count_leftovers : (s.leftovers schema).count n =
    ((s.openAt n).filter fun d => (s.claimers schema d.1.name).isEmpty).length := by
  rw [leftovers, List.count, List.countP_map, List.countP_eq_length_filter, openAt,
    List.filter_filter, List.filter_filter]
  exact congrArg List.length (List.filter_congr fun d _ => Bool.and_comm _ _)

theorem conflicts_at : (s.openDestinations.filterMap (s.conflictReport? schema)).filter
      (Diagnostic.isConflictAt s.key.destination n) =
    (s.openAt n).filterMap (s.conflictReport? schema) := by
  refine filter_filterMap_of (fun d r h => ?_) s.openDestinations
  unfold conflictReport? at h
  dsimp only at h
  split at h
  · rw [← Option.some.inj h]
    simp [Diagnostic.isConflictAt, Diagnostic.report, Location.ofProperty]
  · cases h

/-- The claims of source properties on a name are those of the properties with that fate. -/
theorem sourceClaims_at :
    ((s.sources.filterMap (s.sourceClaim? schema)).filter fun c => c.target == n).map Claim.source =
      (s.sources.filter fun q => s.fate schema q == .claims n).map fun q => [q.1] := by
  have htarget : ∀ q c, s.sourceClaim? schema q = some c →
      (c.target == n) = (s.fate schema q == .claims n) := fun q c hq => by
    obtain ⟨target, hfate, rfl⟩ := sourceClaim?_eq_some_iff.mp hq
    rw [hfate, Bool.eq_iff_iff, beq_iff_eq, beq_iff_eq, Fate.claims.injEq]
  rw [filter_filterMap_of htarget, List.map_filterMap, ← List.filterMap_eq_map]
  refine List.filterMap_congr fun q hq => ?_
  have hfate : s.fate schema q = .claims n := eq_of_beq (List.mem_filter.mp hq).2
  rw [sourceClaim?_eq_some_iff.mpr ⟨n, hfate, rfl⟩]
  rfl

/-! ## 3. Reports -/

theorem nodup_repeated (ns seen told : List String) : (repeated seen told ns).Nodup := by
  induction ns generalizing seen told with
  | nil => exact List.nodup_nil
  | cons x rest ih =>
      unfold repeated
      split
      · split
        · exact ih seen told
        · refine List.nodup_cons.mpr ⟨fun hin => ?_, ih seen (x :: told)⟩
          exact (mem_repeated_iff.mp hin).1 List.mem_cons_self
      · exact ih (x :: seen) told

/-- A shared name is reported once, and no other name is reported as shared. -/
theorem duplicates_at : s.duplicateReports.filter (Diagnostic.isConflictAt s.key.destination n) =
    if s.isDuplicated n then
      [Diagnostic.report .conflictingTargetName (Location.ofProperty s.key.destination n)
        ("more than one destination property is named '" ++ n ++ "'")]
    else [] := by
  have hcount : (repeated [] [] s.targets).filter (· == n) =
      if s.isDuplicated n then [n] else [] := by
    rw [List.filter_beq, (nodup_repeated s.targets [] []).count]
    have hmem : n ∈ repeated [] [] s.targets ↔ s.isDuplicated n = true := by
      rw [mem_repeated_iff, isDuplicated, decide_eq_true_iff]
      simp
    simp only [hmem]
    split <;> rfl
  rw [duplicateReports, List.filter_map]
  have hname : (Diagnostic.isConflictAt s.key.destination n ∘ fun n =>
      Diagnostic.report .conflictingTargetName (Location.ofProperty s.key.destination n)
        ("more than one destination property is named '" ++ n ++ "'")) = (· == n) := by
    funext m
    simp [Diagnostic.isConflictAt, Diagnostic.report, Location.ofProperty]
  rw [hname, hcount]
  split <;> rfl

end Sides

open Diagnostic

/-- A step that never reports on shared or contested names reports no conflict. -/
theorem Diagnostic.CodesIn.no_conflict {codes : List DiagnosticCode} {ds : List Diagnostic}
    (h : CodesIn codes ds) (hcodes : .conflictingTargetName ∉ codes) (owner name : String) :
    ds.filter (isConflictAt owner name) = [] :=
  h.filter_eq_nil fun _ hconflict hmem =>
    hcodes (eq_of_beq (Bool.and_eq_true_iff.mp hconflict).1 ▸ hmem)

/-- **The conflicts at a destination name** are that it is shared, or that it is contested. -/
theorem matchProperties_conflictsAt (s : Schema) (key : MappingKey) (index : Option UInt32)
    (n : String) : (matchProperties s key index).conflictsAt key.destination n =
      (Sides.ofSchema s key index).duplicateReports.filter
        (Diagnostic.isConflictAt key.destination n) ++
      ((Sides.ofSchema s key index).openAt n).filterMap
        ((Sides.ofSchema s key index).conflictReport? s) := by
  have hconflicts := Sides.conflicts_at s (Sides.ofSchema s key index) n
  simp only [Matching.conflictsAt, matchProperties, List.filter_append,
    (s.codes_typeDirectives key.source index).no_conflict (by decide),
    (s.codes_typeDirectives key.destination index).no_conflict (by decide),
    (directiveReports_codes key.source index _).no_conflict (by decide),
    (directiveReports_codes key.destination index _).no_conflict (by decide),
    (Sides.ignoredReports_codes _).no_conflict (by decide),
    (Sides.pathReports_codes _ s _).no_conflict (by decide),
    List.nil_append, List.append_nil]
  exact congrArg _ hconflicts

/-! ## 4. Claimers -/

namespace Schema

variable (s : Schema) (key : MappingKey) (index : Option UInt32)

theorem ignore_withDirectives (owner : String) (p : Property) :
    (withDirectives owner index p).2.ignore = p.isIgnored index := p.effective_ignore owner index

theorem targets_eq : (Sides.ofSchema s key index).targets = s.targets key := List.map_map

theorem isIgnored_eq (name : String) :
    (Sides.ofSchema s key index).isIgnored name = s.leavesOutName key index name := by
  rw [Bool.eq_iff_iff, Sides.isIgnored, leavesOutName, Bool.or_eq_true, Bool.and_eq_true,
    List.contains_iff_mem, Sides.hasTarget, targets_eq, List.contains_iff_mem, List.any_eq_true,
    List.any_eq_true]
  constructor
  · rintro (⟨hname, hin⟩ | ⟨d, hd, hignored⟩)
    · obtain ⟨p, hp, rfl⟩ := List.mem_map.mp hin
      refine ⟨p, hp, ?_⟩
      rw [leavesOut, mem_ignoredTargets_iff.mp hname, Bool.or_true, Bool.and_true, beq_self_eq_true]
    · obtain ⟨p, hp, rfl⟩ := List.mem_map.mp hd
      obtain ⟨hname, hignored⟩ := Bool.and_eq_true_iff.mp hignored
      refine ⟨p, hp, Bool.and_eq_true_iff.mpr ⟨hname, ?_⟩⟩
      rw [leavesOut, ← ignore_withDirectives index key.destination, hignored, Bool.true_or]
  · rintro ⟨p, hp, hand⟩
    obtain ⟨hname, hleft⟩ := Bool.and_eq_true_iff.mp hand
    obtain rfl := eq_of_beq hname
    rcases Bool.or_eq_true_iff.mp hleft with hignored | hnames
    · refine .inr ⟨_, List.mem_map_of_mem hp, Bool.and_eq_true_iff.mpr ⟨hname, ?_⟩⟩
      rw [ignore_withDirectives, hignored]
    · exact .inl ⟨mem_ignoredTargets_iff.mpr hnames, List.mem_map_of_mem hp⟩

/-- No property of a shared name takes part. -/
theorem openAt_eq_nil_of_shared {name : String} (h : 1 < (s.targets key).count name) :
    (Sides.ofSchema s key index).openAt name = [] := by
  rw [Sides.openAt_eq, Sides.isDuplicated, targets_eq, decide_eq_true h, Bool.not_true,
    Bool.and_false, if_neg Bool.false_ne_true]

/-- Neither does one of a name that is left out, nor is there one if no property has the name. -/
theorem openAt_eq_nil_of_out {name : String}
    (h : (!(s.targets key).contains name || s.leavesOutName key index name) = true) :
    (Sides.ofSchema s key index).openAt name = [] := by
  rw [Sides.openAt_eq, isIgnored_eq]
  rcases Bool.or_eq_true_iff.mp h with habsent | hleft
  · rw [Bool.not_eq_true', ← Bool.not_eq_true, List.contains_iff_mem] at habsent
    have hnone := (Sides.ofSchema s key index).length_destinations_at name
    rw [targets_eq, List.count_eq_zero.mpr habsent] at hnone
    rw [List.length_eq_zero_iff.mp hnone, ite_self]
  · rw [hleft, Bool.not_true, Bool.false_and, if_neg Bool.false_ne_true]

/-- **The claims of the paths** are those of the valid path directives. -/
theorem pathClaims_perm :
    (((Sides.ofSchema s key index).pathClaims s).map fun c => (c.target, c.source)).Perm
      (s.chains key index) := by
  rw [Sides.pathClaims, Sides.openPaths, List.filterMap_filter, List.map_filterMap]
  refine ((s.paths_perm key index).filterMap _).trans (List.Perm.of_eq ?_)
  refine List.filterMap_congr fun d _ => ?_
  rw [isIgnored_eq, Sides.hasTarget, targets_eq, Bool.and_comm]
  split
  · rw [Sides.pathClaim?, show (Sides.ofSchema s key index).key = key from rfl]
    cases s.walk key.source d.path <;> rfl
  · rfl

theorem startsPath_eq (name : String) :
    ((Sides.ofSchema s key index).pathRoots s).contains name = s.startsPath key index name := by
  rw [startsPath, ← (s.pathClaims_perm key index).any_eq, List.any_map, Bool.eq_iff_iff,
    List.contains_iff_mem, Sides.pathRoots, List.mem_filterMap, List.any_eq_true]
  refine exists_congr fun c => and_congr_right fun _ => ?_
  show c.source.head?.map Property.name = some name ↔ c.source.head?.any _ = true
  cases c.source.head? <;> simp

/-- **The fates of a matching** are those that the schema says. -/
theorem fate_eq (p : Property) : (Sides.ofSchema s key index).fate s
    (withDirectives key.source index p) = s.fate key index p := by
  simp only [Sides.fate, fate, ignore_withDirectives, isIgnored_eq, Sides.hasTarget, targets_eq,
    startsPath_eq]
  rfl

/-- It is the fate of a source property to claim a name that it wants if there is such a destination
and it is not left out. -/
theorem fate_eq_claims_iff {p : Property} {name : String} :
    s.fate key index p = .claims name ↔ p.claims key.source index name = true ∧
      s.leavesOutName key index name = false ∧ (s.targets key).contains name = true := by
  rw [← fate_eq, Sides.fate_eq_claims_iff, ignore_withDirectives, isIgnored_eq, Sides.hasTarget,
    targets_eq, Property.claims, Bool.and_eq_true, Bool.not_eq_true', beq_iff_eq, and_assoc]
  rfl

theorem sourcesOf_eq (f : Sides.Fate) : (Sides.ofSchema s key index).sourcesOf s f =
    (s.fated key index (· == f)).map Property.name := by
  rw [Sides.sourcesOf, Sides.ofSchema, List.filter_map, List.map_map, fated]
  refine congrArg _ (List.filter_congr fun p _ => ?_)
  exact congrArg (· == f) (s.fate_eq key index p)

/-- A source property has one of four kinds of fates. -/
theorem fated_perm : (s.fated key index (· == .ignored) ++ s.fated key index Sides.Fate.isClaim ++
    s.fated key index (· == .root) ++ s.fated key index (· == .unclaimed)).Perm
      (s.readable key.source) := by
  have hcount : ∀ p test, (s.fated key index test).count p =
      if test (s.fate key index p) then (s.readable key.source).count p else 0 :=
    fun p test => by
      split
      · rename_i htest
        exact List.count_filter htest
      · rename_i htest
        exact List.count_eq_zero.mpr fun hin => htest (List.mem_filter.mp hin).2
  refine List.perm_iff_count.mpr fun p => ?_
  simp only [List.count_append, hcount]
  cases s.fate key index p <;> simp [Sides.Fate.isClaim]

variable {s key index}

/-- **The claims on a name that takes part** are those of its claimers. -/
theorem claimers_perm {name : String} (hname : (s.targets key).contains name = true)
    (hopen : s.leavesOutName key index name = false) :
    (((Sides.ofSchema s key index).claimers s name).map Claim.source).Perm
      (s.claimers key index name) := by
  rw [Sides.claimers, Sides.claims, List.filter_append, List.map_append]
  refine List.Perm.append ?_ (List.Perm.of_eq ?_)
  · have hpaths := ((s.pathClaims_perm key index).filter fun c => c.1 == name).map Prod.snd
    rwa [List.filter_map, List.map_map] at hpaths
  · rw [Sides.sourceClaims_at, Sides.ofSchema, List.filter_map, List.map_map]
    refine congrArg _ (List.filter_congr fun p _ => ?_)
    show ((Sides.ofSchema s key index).fate s (withDirectives key.source index p) ==
      .claims name) = p.claims key.source index name
    rw [fate_eq, Bool.eq_iff_iff, beq_iff_eq, fate_eq_claims_iff]
    exact and_iff_left ⟨hopen, hname⟩

end Schema

/-! ## 5. Both sides -/

section

variable (s : Schema) (key : MappingKey) (index : Option UInt32) (name : String)

/-- A name whose properties take no part is in no pair and in no leftover; it is reported only as
shared. -/
theorem matchProperties_of_openAt_nil (h : (Sides.ofSchema s key index).openAt name = []) :
    (matchProperties s key index).pairsAt name = [] ∧
    name ∉ (matchProperties s key index).leftovers ∧
    (matchProperties s key index).conflictsAt key.destination name =
      (Sides.ofSchema s key index).duplicateReports.filter
        (Diagnostic.isConflictAt key.destination name) := by
  have hpairs := Sides.pairs_at s (Sides.ofSchema s key index) name
  have hleftovers := Sides.count_leftovers s (Sides.ofSchema s key index) name
  have hconflicts := matchProperties_conflictsAt s key index name
  rw [h] at hpairs hleftovers hconflicts
  exact ⟨hpairs, List.count_eq_zero.mp hleftovers, hconflicts.trans (List.append_nil _)⟩

/-- A name that takes part with one property comes to what the number of its claims says. -/
theorem matchProperties_of_openAt_singleton {d : Property × PropertyDirectives}
    (hname : d.1.name = name) (h : (Sides.ofSchema s key index).openAt name = [d])
    (hshared : (Sides.ofSchema s key index).duplicateReports.filter
      (Diagnostic.isConflictAt key.destination name) = []) :
    (matchProperties s key index).HasLot key.destination name
      (.ofClaimers (((Sides.ofSchema s key index).claimers s name).map Claim.source)) := by
  have hpairs := Sides.pairs_at s (Sides.ofSchema s key index) name
  have hleftovers := Sides.count_leftovers s (Sides.ofSchema s key index) name
  have hconflicts := matchProperties_conflictsAt s key index name
  rw [h] at hpairs hleftovers hconflicts
  rw [hshared, List.nil_append] at hconflicts
  subst hname
  simp only [List.filterMap_cons, List.filterMap_nil, List.filter_cons, List.filter_nil,
    Sides.pair?, Sides.conflictReport?] at hpairs hleftovers hconflicts
  cases hclaims : (Sides.ofSchema s key index).claimers s d.1.name with
  | nil =>
      rw [hclaims] at hpairs hleftovers hconflicts
      exact ⟨hpairs, hleftovers, hconflicts⟩
  | cons c rest =>
      cases rest with
      | nil =>
          rw [hclaims] at hpairs hleftovers hconflicts
          exact ⟨congrArg _ hpairs, List.count_eq_zero.mp hleftovers, hconflicts⟩
      | cons c' rest =>
          rw [hclaims] at hpairs hleftovers hconflicts
          rw [if_pos (by simp)] at hconflicts
          exact ⟨hpairs, List.count_eq_zero.mp hleftovers, _, hconflicts, rfl⟩

/-- **Every destination name comes to its lot.** -/
theorem matchProperties_hasLot :
    (matchProperties s key index).HasLot key.destination name (s.lot key index name) := by
  have hshared := (Sides.ofSchema s key index).duplicates_at name
  rw [show (Sides.ofSchema s key index).key = key from rfl, Sides.isDuplicated,
    s.targets_eq key index] at hshared
  unfold Schema.lot
  split
  · rename_i hmany
    obtain ⟨hpairs, hleftovers, hconflicts⟩ := matchProperties_of_openAt_nil s key index name
      (s.openAt_eq_nil_of_shared key index hmany)
    rw [if_pos (decide_eq_true hmany)] at hshared
    exact ⟨hpairs, hleftovers, _, hconflicts.trans hshared, rfl⟩
  · rename_i hfew
    rw [if_neg (mt of_decide_eq_true hfew)] at hshared
    split
    · rename_i hout
      obtain ⟨hpairs, hleftovers, hconflicts⟩ := matchProperties_of_openAt_nil s key index name
        (s.openAt_eq_nil_of_out key index hout)
      exact ⟨hpairs, hleftovers, hconflicts.trans hshared⟩
    · rename_i hin
      rw [Bool.or_eq_true, not_or, Bool.not_eq_true', Bool.not_eq_false, Bool.not_eq_true] at hin
      have hpos : 0 < (s.targets key).count name :=
        List.count_pos_iff.mpr (List.contains_iff_mem.mp hin.1)
      obtain ⟨d, hname, hd⟩ := (Sides.ofSchema s key index).exists_openAt name
        ((s.isIgnored_eq key index name).trans hin.2) (by rw [s.targets_eq]; omega)
      rw [← Lot.ofClaimers_perm (s.claimers_perm hin.1 hin.2)]
      exact matchProperties_of_openAt_singleton s key index name hname hd hshared

/-- **No two pairs are for one destination.** -/
theorem matchProperties_nodup_names :
    ((matchProperties s key index).pairs.map fun p => p.destination.name).Nodup := by
  refine List.nodup_iff_count_le_one.mpr fun name => ?_
  rw [List.count, List.countP_map, List.countP_eq_length_filter]
  exact (matchProperties_hasLot s key index name).length_pairsAt_le

end

/-- **A matching splits both sides**, whatever the schema, the key and the index are: every
destination name comes to its lot, and every source property to its fate. -/
theorem matchProperties_splits (s : Schema) (key : MappingKey) (index : Option UInt32) :
    (matchProperties s key index).Splits s key index where
  settable p hp := by
    obtain ⟨d, hd, c, -, rfl⟩ := Sides.exists_of_mem_pairs hp
    obtain ⟨q, hq, rfl⟩ := List.mem_map.mp (List.mem_filter.mp hd).1
    exact hq
  lots := matchProperties_hasLot s key index
  ignored := s.sourcesOf_eq key index .ignored
  unclaimed := s.sourcesOf_eq key index .unclaimed
  sources := by
    have hperm := (s.fated_perm key index).map Property.name
    simp only [List.map_append] at hperm
    rwa [← s.sourcesOf_eq key index .ignored, ← s.sourcesOf_eq key index .unclaimed] at hperm

/-- The number and the code of an order both want the one number of a view, the town comes along a
path, the total is filled by nothing and the margin is not to be filled. -/
example :
    let text : TypeRef := .scalar "String" false false
    let plain (name : String) : Property := ⟨name, text, false, ⟨true, true⟩, []⟩
    let code : Property := { plain "code" with directives := [⟨.renameTo "number", none⟩] }
    let note : Property := { plain "note" with directives := [⟨.ignore, none⟩] }
    let address : Property := { plain "address" with ty := .object "app::Address" false }
    let type (path : String) (ps : List Property) (ds : List DirectiveEntry) : TypeDecl :=
      ⟨path, none, false, true, ps, ds, []⟩
    let s := Schema.ofLists
      [type "app::Order" [plain "number", code, note, address, plain "weight"]
          [⟨.mapPath "address.town" "town", none⟩],
        type "app::Address" [plain "town"] [],
        type "view::Order" [plain "number", plain "town", plain "total", plain "margin"]
          [⟨.ignoreTargetNames ["margin"], none⟩]] []
    let key : MappingKey := ⟨"app::Order", "view::Order"⟩
    ["number", "town", "total", "margin", "note"].map (s.lot key none) =
        [.contested, .paired [address, plain "town"], .leftover, .out, .out] ∧
      (s.readable key.source).map (s.fate key none) =
        [.claims "number", .claims "number", .ignored, .root, .unclaimed] := by
  decide +kernel

end TypeMapper

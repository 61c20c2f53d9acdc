import Mathlib.Data.List.Flatten
import Mathlib.Data.List.Nodup
import Mathlib.Data.List.Pairwise
import TypeMapper.Proofs.Batch.Linkage
/-!
# Names of the functions of one run

A mapping may have three routines, and each is named by what its kind starts with and the base name
of the mapping. The modules of a run are opened into one scope, so all these names meet. One lead is
the start of another: a base name may begin with the rest of that other lead, and then the routine
of one mapping is named like the routine over sequences of another.

* `RoutineKind`, `RoutineKind.name`: the routines of a mapping and their names.
* `RoutineKind.name_eq_iff`: when two names are the same.
* `functionNames`, `functionNames_nodup_iff`: the names over many base names, and when they differ.
* `Emitter.module_functions`: a module defines the routines that the settings ask for.
* `Batch.functions_distinct_iff`: the functions of an arena and of a run.
-/

namespace TypeMapper

/-! ## 1. Names -/

/-- The routines that a mapping may have. -/
inductive RoutineKind where
  | single
  | sequence
  | projection
  deriving DecidableEq, Repr

namespace RoutineKind

/-- Every kind of routine. -/
def all : List RoutineKind := [single, sequence, projection]

/-- What the names of a kind start with. -/
def lead : RoutineKind → String
  | single => "map_"
  | sequence => "map_many_"
  | projection => "project_"

/-- The name of the routine of a kind for a base name. -/
def name (k : RoutineKind) (base : String) : String := k.lead ++ base

/-- The kinds that the settings ask for. -/
def asked (c : Config) : List RoutineKind :=
  single :: ((if c.sequenceVariant then [sequence] else []) ++
    if c.expressionVariant then [projection] else [])

theorem single_mem_asked (c : Config) : single ∈ asked c := List.mem_cons_self

theorem sequence_mem_asked_iff {c : Config} :
    sequence ∈ asked c ↔ c.sequenceVariant = true := by
  unfold asked
  cases c.sequenceVariant <;> cases c.expressionVariant <;> decide

theorem asked_sublist_all (c : Config) : (asked c).Sublist all := by
  unfold asked
  cases c.sequenceVariant <;> cases c.expressionVariant <;> decide

/-- The lead of the routine over sequences is that of the single routine and more. -/
theorem sequence_name_eq (b : String) : sequence.name b = single.name ("many_" ++ b) := by
  show "map_many_" ++ b = "map_" ++ ("many_" ++ b)
  rw [← String.append_assoc]
  rfl

/-- The first letters tell projections from the others. -/
theorem name_ne_projection {k : RoutineKind} (hk : k ≠ projection) (b d : String) :
    k.name b ≠ projection.name d := by
  intro h
  have hfirst : (k.name b).toList.head? = some 'm' := by
    cases k with
    | single => simp [name, lead]
    | sequence => simp [name, lead]
    | projection => exact absurd rfl hk
  rw [h] at hfirst
  simp [name, lead] at hfirst

theorem name_inj {k : RoutineKind} {b d : String} (h : k.name b = k.name d) : b = d :=
  (String.append_right_inj k.lead).mp h

theorem single_eq_sequence_iff {b d : String} :
    single.name b = sequence.name d ↔ b = "many_" ++ d := by
  rw [sequence_name_eq]
  exact ⟨name_inj, congrArg single.name⟩

/-- **Two names are the same** for the same kind and base name only, or where the base name of a
single routine starts with the rest of the other lead. -/
theorem name_eq_iff {k l : RoutineKind} {b d : String} :
    k.name b = l.name d ↔ (k = l ∧ b = d) ∨ (k = single ∧ l = sequence ∧ b = "many_" ++ d) ∨
      (k = sequence ∧ l = single ∧ d = "many_" ++ b) := by
  constructor
  · intro h
    cases k with
    | single =>
        cases l with
        | single => exact .inl ⟨rfl, name_inj h⟩
        | sequence => exact .inr (.inl ⟨rfl, rfl, single_eq_sequence_iff.mp h⟩)
        | projection => exact absurd h (name_ne_projection (by decide) b d)
    | sequence =>
        cases l with
        | single => exact .inr (.inr ⟨rfl, rfl, single_eq_sequence_iff.mp h.symm⟩)
        | sequence => exact .inl ⟨rfl, name_inj h⟩
        | projection => exact absurd h (name_ne_projection (by decide) b d)
    | projection =>
        cases l with
        | single => exact absurd h.symm (name_ne_projection (by decide) d b)
        | sequence => exact absurd h.symm (name_ne_projection (by decide) d b)
        | projection => exact .inl ⟨rfl, name_inj h⟩
  · rintro (⟨rfl, rfl⟩ | ⟨rfl, rfl, hb⟩ | ⟨rfl, rfl, hd⟩)
    · rfl
    · exact single_eq_sequence_iff.mpr hb
    · exact (single_eq_sequence_iff.mpr hd).symm

end RoutineKind

open RoutineKind

/-- The names of the routines of given kinds over base names. -/
def functionNames (kinds : List RoutineKind) (bases : List String) : List String :=
  bases.flatMap fun b => kinds.map fun k => k.name b

variable {kinds : List RoutineKind} {bases : List String} {b d : String}

theorem ne_many_append (b : String) : b ≠ "many_" ++ b := by
  intro h
  have hlength := congrArg String.length h
  rw [String.length_append] at hlength
  have hmany : "many_".length = 5 := rfl
  omega

/-- Two base names share no routine unless one is the other behind the rest of the lead. -/
theorem disjoint_names_iff (hs : single ∈ kinds) (hne : b ≠ d) :
    (kinds.map fun k => k.name b).Disjoint (kinds.map fun k => k.name d) ↔
      (sequence ∈ kinds → d ≠ "many_" ++ b ∧ b ≠ "many_" ++ d) := by
  constructor
  · intro h hseq
    refine ⟨fun hd => ?_, fun hb => ?_⟩
    · have heq : sequence.name b = single.name d := (single_eq_sequence_iff.mpr hd).symm
      exact h (List.mem_map_of_mem hseq) (List.mem_map.mpr ⟨single, hs, heq.symm⟩)
    · have heq : single.name b = sequence.name d := single_eq_sequence_iff.mpr hb
      exact h (List.mem_map_of_mem hs) (List.mem_map.mpr ⟨sequence, hseq, heq.symm⟩)
  · intro h n hb hd
    obtain ⟨k, hk, rfl⟩ := List.mem_map.mp hb
    obtain ⟨l, hl, heq⟩ := List.mem_map.mp hd
    rcases name_eq_iff.mp heq with ⟨-, hdb⟩ | ⟨-, rfl, hdb⟩ | ⟨rfl, -, hbd⟩
    · exact hne hdb.symm
    · exact (h hk).1 hdb
    · exact (h hl).2 hbd

/-- **All names are different exactly if** the base names are and, where there are routines over
sequences, none of the base names is another one behind the rest of the lead. -/
theorem functionNames_nodup_iff (hk : kinds.Nodup) (hs : single ∈ kinds) :
    (functionNames kinds bases).Nodup ↔
      bases.Nodup ∧ (sequence ∈ kinds → ∀ b ∈ bases, "many_" ++ b ∉ bases) := by
  have hown : ∀ b ∈ bases, (kinds.map fun k => k.name b).Nodup := by
    intro b _
    refine hk.map fun k l hkl => ?_
    rcases name_eq_iff.mp hkl with ⟨h, -⟩ | ⟨-, -, h⟩ | ⟨-, -, h⟩
    · exact h
    · exact absurd h (ne_many_append b)
    · exact absurd h (ne_many_append b)
  rw [functionNames, List.nodup_flatMap]
  constructor
  · rintro ⟨-, hpair⟩
    have hnodup : bases.Nodup := by
      refine hpair.imp ?_
      rintro b _ hdisjoint rfl
      exact hdisjoint (List.mem_map_of_mem hs) (List.mem_map_of_mem hs)
    refine ⟨hnodup, fun hseq b hb hmany => ?_⟩
    have : Std.Symm (Function.onFun List.Disjoint fun b => kinds.map fun k => k.name b) :=
      ⟨fun _ _ h _ hd hb => h hb hd⟩
    have hdisjoint := hpair.forall hb hmany (ne_many_append b)
    exact ((disjoint_names_iff hs (ne_many_append b)).mp hdisjoint hseq).1 rfl
  · rintro ⟨hnodup, hmany⟩
    refine ⟨hown, hnodup.imp_of_mem fun {b d} hb hd hne => ?_⟩
    refine (disjoint_names_iff hs hne).mpr fun hseq => ⟨?_, ?_⟩
    · rintro rfl
      exact hmany hseq b hb hd
    · rintro rfl
      exact hmany hseq d hd hb

/-! ## 2. Modules -/

namespace RoutineNames

/-- The name of the routine of a kind; it must be a word. -/
def ofKind (n : RoutineNames) (k : RoutineKind) (id : MappingId) : Emit String := do
  made (k.lead ++ (← n.base id))

theorem ofKind_gives {n : RoutineNames} {id : MappingId} (hb : n.base? id = some b)
    (k : RoutineKind) : Gives (fun m => m = k.name b) (n.ofKind k id) := by
  refine gives_bind_ofOption hb ?_
  unfold made
  split
  · exact gives_ok rfl
  · exact gives_error _

end RoutineNames

/-- What is made if it is asked for has what it would have. -/
theorem ifAsked_gives {α : Type} {f : α → String} {n : String} {x : Emit α} (asked : Bool)
    (hx : Gives (fun a => f a = n) x) :
    Gives (fun o => (o.map f).toList = if asked then [n] else []) (ifAsked asked x) := by
  unfold ifAsked
  split
  · exact hx.map fun a ha => congrArg (fun m => [m]) ha
  · exact gives_ok rfl

/-- **A module defines the routines that the settings ask for**, named by the base name. -/
theorem Emitter.module_functions {e : Emitter} (hb : e.names.base? e.id = some b) :
    Gives (fun k => (ArtifactBody.module k).defined = functionNames (asked e.config) [k.name] ∧
      k.name = b) e.module := by
  have hprimary : Gives (fun r => r.name = single.name b) e.primary := fun r hr =>
    RoutineNames.ofKind_gives hb .single _ (primary_name r hr)
  have hsequence : Gives (fun r => r.name = RoutineKind.sequence.name b) e.sequence :=
    sequence_parts.imp fun _ hr => RoutineNames.ofKind_gives hb .sequence _ hr.name
  have hprojection : Gives (fun r => r.name = RoutineKind.projection.name b) e.projection :=
    projection_parts.imp fun _ hr => RoutineNames.ofKind_gives hb .projection _ hr.name
  have hdefined : Gives (fun k => (ArtifactBody.module k).defined =
      (asked e.config).map fun k => k.name b) e.module := by
    unfold module
    refine (gives_true _).bind fun _ _ => hprimary.bind fun primary hp => ?_
    refine (ifAsked_gives _ hsequence).bind fun sequence hs => ?_
    refine (ifAsked_gives _ hprojection).bind fun projection hj => ?_
    refine (gives_true _).bind fun _ _ => (gives_true _).bind fun _ _ => gives_ok ?_
    rw [ArtifactBody.defined, hp, hs, hj, asked]
    cases e.config.sequenceVariant <;> cases e.config.expressionVariant <;> rfl
  intro k hk
  have hname : k.name = b := Option.some.inj ((e.module_gives k hk).symm.trans hb)
  refine ⟨?_, hname⟩
  rw [hdefined k hk, functionNames, List.flatMap_singleton, hname]

/-! ## 3. Runs -/

/-- The name of the module that an artifact holds. -/
def ArtifactBody.moduleName? : ArtifactBody → Option String
  | module k => some k.name
  | _ => none

/-- The names of the modules of artifacts. -/
def moduleNames (xs : List Artifact) : List String := xs.filterMap fun x => x.body.moduleName?

theorem exists_of_mem_moduleNames {xs : List Artifact} {n : String} (h : n ∈ moduleNames xs) :
    ∃ x ∈ xs, ∃ k, x.body = .module k ∧ k.name = n := by
  obtain ⟨x, hx, hname⟩ := List.mem_filterMap.mp h
  unfold ArtifactBody.moduleName? at hname
  split at hname
  · rename_i k hk
    exact ⟨x, hx, k, hk, Option.some.inj hname⟩
  · cases hname

/-- An artifact defines routines in its module only: those that the settings ask for. -/
def ArtifactBody.DefinesAsked (c : Config) (body : ArtifactBody) : Prop :=
  body.defined = functionNames (asked c) body.moduleName?.toList

/-- The artifact of a mapping holds its module or none. -/
theorem Artifact.ofMapping_functions {a : Arena} {c : Config} {names : RoutineNames}
    {p : MappingId × Mapping} (hb : names.base? p.1 = some b) :
    Gives (fun x => x.body.DefinesAsked c ∧
      (x.body.moduleName? = none ∨ x.body.moduleName? = some b)) (ofMapping a c names p) := by
  intro x hx
  rcases ofMapping_cases hx with ⟨k, hk, hbody⟩ | ⟨e, -, hbody⟩
  · obtain ⟨hdefined, hname⟩ := Emitter.module_functions hb k hk
    rw [hbody]
    exact ⟨hdefined, .inr (congrArg some hname)⟩
  · rw [hbody]
    exact ⟨rfl, .inl rfl⟩

/-- What artifacts define one by one they define together. -/
theorem flatMap_defined_eq {c : Config} {xs : List Artifact}
    (h : ∀ x ∈ xs, x.body.DefinesAsked c) :
    (xs.flatMap fun x => x.body.defined) = functionNames (asked c) (moduleNames xs) := by
  induction xs with
  | nil => rfl
  | cons x xs ih =>
      rw [List.forall_mem_cons] at h
      have hx : x.body.defined = functionNames (asked c) x.body.moduleName?.toList := h.1
      rw [List.flatMap_cons, hx, ih h.2, functionNames, functionNames, functionNames,
        ← List.flatMap_append, moduleNames, moduleNames, List.filterMap_cons]
      cases x.body.moduleName? <;> rfl

/-- Artifacts that hold the module of a name or none have names among all of these, in order. -/
theorem moduleNames_sublist {ps : List (MappingId × Mapping)} {xs : List Artifact}
    {base? : MappingId → Option String}
    (h : List.Forall₂ (fun p x => x.body.moduleName? = none ∨ x.body.moduleName? = base? p.1)
      ps xs) : (moduleNames xs).Sublist (ps.filterMap fun p => base? p.1) := by
  induction h with
  | nil => exact .slnil
  | @cons p x ps xs hpx _ ih =>
      rw [moduleNames, List.filterMap_cons, List.filterMap_cons]
      rcases hpx with hnone | hbase
      · rw [hnone]
        cases base? p.1 with
        | none => exact ih
        | some b => exact ih.cons b
      · rw [hbase]
        cases base? p.1 with
        | none => exact ih
        | some b => exact ih.cons_cons b

/-- The base names are those of the mappings in order. -/
theorem RoutineNames.bases_eq (a : Arena) :
    (a.entries.filterMap fun p => (ofArena a).base? p.1) = (ofArena a).bases := by
  have hmap : (a.entries.map fun p => (ofArena a).base? p.1) = (ofArena a).bases.map some := by
    refine List.ext_getElem? fun i => ?_
    rw [List.getElem?_map, List.getElem?_map, Arena.entries_getElem?]
    cases hm : a.get? i with
    | none =>
        have hnone : (ofArena a).bases[i]? = none := by
          rw [List.getElem?_eq_none_iff, length_bases]
          exact Arena.get?_eq_none_iff.mp hm
        rw [hnone]
        rfl
    | some m =>
        obtain ⟨base, hbase⟩ := exists_base hm
        show some ((ofArena a).base? i) = (ofArena a).bases[i]?.map some
        rw [base?] at hbase ⊢
        rw [hbase]
        rfl
  have hid := congrArg (List.filterMap id) hmap
  rw [List.filterMap_map, List.filterMap_map] at hid
  exact hid.trans (List.filterMap_some)

namespace Batch

/-- The artifacts of a run are those of accepted mappings, in order, and side artifacts, which hold
no module. -/
theorem artifacts_split (b : Batch) (c : Config) :
    Gives (fun xs => ∃ modules sides, xs = modules ++ sides ∧
      List.Forall₂ (fun p x =>
        Artifact.ofMapping b.arena c (RoutineNames.ofArena b.arena) p = .ok x) b.accepted modules ∧
      ∀ x ∈ sides, ∀ k, x.body ≠ .module k) (b.artifacts c) := by
  have hskip (subject reason : String) (k : MappingModule) :
      ArtifactBody.skipped subject reason ≠ .module k := by
    intro h
    cases h
  have hside (make : List Dispatch → ArtifactBody) (hmake : ∀ ds k, make ds ≠ .module k)
      (asked : Bool) (name : String) :
      Gives (fun xs => ∀ x ∈ xs, ∀ k, x.body ≠ .module k) (Artifact.side asked name
        ((Dispatch.ofArena b.arena (RoutineNames.ofArena b.arena)).map make)) :=
    Artifact.side_gives (Q := fun body => ∀ k, body ≠ .module k)
      ((gives_true _).map fun ds _ => hmake ds) hskip asked name
  unfold artifacts
  refine (gives_mapM fun p _ => gives_self _).bind fun modules hmodules => ?_
  refine (hside .registration (fun _ _ h => nomatch h) _ _).bind fun registration hreg => ?_
  refine (hside .dispatch (fun _ _ h => nomatch h) _ _).bind fun dispatch hdis => gives_ok ?_
  refine ⟨modules, registration ++ dispatch, List.append_assoc .., hmodules, fun x hx => ?_⟩
  rcases List.mem_append.mp hx with hx | hx
  · exact hreg x hx
  · exact hdis x hx

/-- A module that comes out is that of an accepted mapping. -/
theorem exists_of_module {b : Batch} {c : Config} {xs : List Artifact}
    (h : b.artifacts c = .ok xs) {x : Artifact} (hx : x ∈ xs) {k : MappingModule}
    (hk : x.body = .module k) : ∃ p ∈ b.accepted,
      (Emitter.ofArena b.arena c (RoutineNames.ofArena b.arena) p.1 p.2).module = .ok k := by
  obtain ⟨modules, sides, rfl, hmodules, hsides⟩ := artifacts_split b c xs h
  rcases List.mem_append.mp hx with hx | hx
  · obtain ⟨p, hp, hmade⟩ := exists_of_mem_right hmodules hx
    rcases Artifact.ofMapping_cases hmade with ⟨l, hl, hbody⟩ | ⟨e, -, hbody⟩
    · rw [hk] at hbody
      exact ⟨p, hp, ArtifactBody.module.inj hbody ▸ hl⟩
    · rw [hk] at hbody
      cases hbody
  · exact absurd hk (hsides x hx k)

/-- The modules of a run are those of mappings of its arena, in order. -/
theorem artifacts_functions (b : Batch) (c : Config) :
    Gives (fun xs => (∀ x ∈ xs, x.body.DefinesAsked c) ∧
      (moduleNames xs).Sublist (RoutineNames.ofArena b.arena).bases) (b.artifacts c) := by
  intro xs hxs
  obtain ⟨modules, sides, rfl, hmodules, hsides⟩ := artifacts_split b c xs hxs
  have hmodule : List.Forall₂ (fun p x => x.body.DefinesAsked c ∧ (x.body.moduleName? = none ∨
      x.body.moduleName? = (RoutineNames.ofArena b.arena).base? p.1)) b.accepted modules := by
    refine ((List.forall₂_and_left _ _).mpr ⟨fun p hp => hp, hmodules⟩).imp fun p x ⟨hp, hx⟩ => ?_
    obtain ⟨base, hbase⟩ := RoutineNames.exists_base (mem_accepted_iff.mp hp).1
    rw [hbase]
    exact Artifact.ofMapping_functions hbase x hx
  have hnone : ∀ x ∈ sides, x.body.moduleName? = none ∧ x.body.DefinesAsked c := by
    intro x hx
    have hno := hsides x hx
    unfold ArtifactBody.DefinesAsked
    cases hbody : x.body with
    | module k => exact absurd hbody (hno k)
    | registration ds => exact ⟨rfl, rfl⟩
    | dispatch ds => exact ⟨rfl, rfl⟩
    | skipped subject reason => exact ⟨rfl, rfl⟩
  constructor
  · intro x hx
    rcases List.mem_append.mp hx with hx | hx
    · obtain ⟨p, -, hdefines, -⟩ := exists_of_mem_right hmodule hx
      exact hdefines
    · exact (hnone x hx).2
  · have hsublist := moduleNames_sublist (hmodule.imp fun _ _ h => h.2)
    have haccepted : (b.accepted.filterMap fun p =>
        (RoutineNames.ofArena b.arena).base? p.1).Sublist (RoutineNames.ofArena b.arena).bases := by
      rw [← RoutineNames.bases_eq]
      exact List.filter_sublist.filterMap _
    have hsides : sides.filterMap (fun x => x.body.moduleName?) = [] :=
      List.filterMap_eq_nil_iff.mpr fun x hx => (hnone x hx).1
    rw [moduleNames, List.filterMap_append, hsides, List.append_nil]
    exact hsublist.trans haccepted

/-- **When the functions of one run have different names.** Over an arena all names are different
exactly if the base names are and none of them is another one behind `many_`. The functions that
come out are those that the settings ask for, of the mappings whose modules come out, in order;
their names are different exactly if the names of these modules are and, where there are routines
over sequences, none of them is another one behind `many_`. -/
theorem functions_distinct_iff (b : Batch) :
    ((functionNames RoutineKind.all (RoutineNames.ofArena b.arena).bases).Nodup ↔
      (RoutineNames.ofArena b.arena).bases.Nodup ∧
        ∀ n ∈ (RoutineNames.ofArena b.arena).bases,
          "many_" ++ n ∉ (RoutineNames.ofArena b.arena).bases) ∧
    ∀ c xs, b.artifacts c = .ok xs →
      (xs.flatMap fun x => x.body.defined) = functionNames (asked c) (moduleNames xs) ∧
      (moduleNames xs).Sublist (RoutineNames.ofArena b.arena).bases ∧
      ((xs.flatMap fun x => x.body.defined).Nodup ↔ (moduleNames xs).Nodup ∧
        (c.sequenceVariant = true → ∀ n ∈ moduleNames xs, "many_" ++ n ∉ moduleNames xs)) := by
  constructor
  · have hnodup : RoutineKind.all.Nodup := by decide
    have hseq : sequence ∈ RoutineKind.all := by decide
    rw [functionNames_nodup_iff hnodup List.mem_cons_self]
    exact and_congr_right fun _ => ⟨fun h => h hseq, fun h _ => h⟩
  · intro c xs hxs
    obtain ⟨hdefines, hsublist⟩ := artifacts_functions b c xs hxs
    have hdefined := flatMap_defined_eq hdefines
    refine ⟨hdefined, hsublist, ?_⟩
    have hkinds : (asked c).Nodup := (asked_sublist_all c).nodup (by decide)
    rw [hdefined, functionNames_nodup_iff hkinds (single_mem_asked c), sequence_mem_asked_iff]

/-- The functions for an order with a line have different names. -/
theorem functions_distinct_of_line : ∃ xs, lineArtifacts "code" = .ok xs ∧
    moduleNames xs = ["line_to_line", "order_to_order"] ∧
    (xs.flatMap fun x => x.body.defined).Nodup := by
  have hreport : (lineArtifacts "code").toOption.map moduleNames =
      some ["line_to_line", "order_to_order"] := by
    decide +kernel
  obtain ⟨xs, hxs, hnames⟩ := Option.map_eq_some_iff.mp hreport
  have hxs := eq_ok_of_toOption hxs
  obtain ⟨-, -, hdistinct⟩ :=
    (functions_distinct_iff (discover (lineSchema "code") sideConfig)).2 sideConfig xs hxs
  refine ⟨xs, hxs, hnames, hdistinct.mpr ?_⟩
  rw [hnames]
  exact ⟨by decide, fun _ => by decide⟩

/-- Orders and bulk orders with a text, both mapped to one view. -/
def bulkSchema : Schema :=
  Schema.ofLists
    [type "shop::ManyOrder" (some "view::Order"), type "shop::Order" (some "view::Order"),
      type "view::Order" none] []
where
  /-- A type with a text that may be mapped to another. -/
  type (path : String) (view : Option String) : TypeDecl :=
    ⟨path, none, false, true, [⟨"text", .scalar "String" false false, false, ⟨true, true⟩, []⟩],
      view.toList.map fun d => ⟨.mapTo d, none⟩, []⟩

/-- The base names are different, and yet the routine for a bulk order is named like the routine
over a sequence of orders. -/
theorem functions_of_bulk_shared :
    (RoutineNames.ofArena (discover bulkSchema sideConfig).arena).bases =
      ["many_order_to_order", "order_to_order"] ∧
    (RoutineNames.ofArena (discover bulkSchema sideConfig).arena).bases.Nodup ∧
    ((discover bulkSchema sideConfig).artifacts sideConfig).toOption.map
      (fun xs => xs.map fun x => (x.name, x.body.defined)) =
      some [("many_order_to_order", ["map_many_order_to_order", "map_many_many_order_to_order"]),
        ("order_to_order", ["map_order_to_order", "map_many_order_to_order"]),
        ("registration", []), ("dispatch", [])] ∧
    ¬ (functionNames RoutineKind.all
      (RoutineNames.ofArena (discover bulkSchema sideConfig).arena).bases).Nodup := by
  have hbases : (RoutineNames.ofArena (discover bulkSchema sideConfig).arena).bases =
      ["many_order_to_order", "order_to_order"] := by
    decide +kernel
  refine ⟨hbases, ?_, by decide +kernel, ?_⟩
  · rw [hbases]
    decide
  · rw [hbases]
    decide

end Batch

end TypeMapper

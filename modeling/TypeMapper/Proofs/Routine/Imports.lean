import Mathlib.Data.Finset.Card
import TypeMapper.Proofs.Arena.Reachability
import TypeMapper.Proofs.Routine.Carries
import TypeMapper.Proofs.Routine.Paths
import TypeMapper.Proofs.Routine.ProjectionLayout
/-!
# What a module imports

Which last names clash is found out beforehand, from all paths that the mappings of a module may
mention. The paths themselves are spelled one by one while the routines are made. As each of them is
among those that were foreseen, no two that are imported end in one name.

* `Scope.mem_clashes_iff`, `path_eq_imported_iff`: when a path is spelled bare.
* `Scope.Spells`: all of some spelled paths are among those that were foreseen.
* `Emitter.primary_spells`, `sequence_spells`, `projection_spells`: the routines of a mapping.
* `Emitter.module_spells`: the paths that a module spells.
-/

namespace TypeMapper

open TypePath (anchored ident isForeign)

/-! ## 1. Clashes -/

/-- Of distinct things more than one have the same image exactly if two do. -/
theorem one_lt_count_map_iff {α β : Type} [DecidableEq α] [DecidableEq β] {f : α → β} {xs : List α}
    (h : xs.Nodup) {b : β} :
    1 < (xs.map f).count b ↔ ∃ x ∈ xs, ∃ y ∈ xs, x ≠ y ∧ f x = b ∧ f y = b := by
  have hcount : (xs.map f).count b = (xs.filter fun x => f x = b).toFinset.card := by
    rw [List.toFinset_card_of_nodup (h.filter _), List.count_eq_countP, List.countP_map,
      List.countP_eq_length_filter]
    rfl
  rw [hcount, Finset.one_lt_card]
  simp only [List.mem_toFinset, List.mem_filter, decide_eq_true_eq]
  constructor
  · rintro ⟨x, ⟨hx, hfx⟩, y, ⟨hy, hfy⟩, hne⟩
    exact ⟨x, hx, y, hy, hne, hfx, hfy⟩
  · rintro ⟨x, hx, y, hy, hne, hfx, hfy⟩
    exact ⟨x, ⟨hx, hfx⟩, y, ⟨hy, hfy⟩, hne⟩

namespace Scope

variable {s : Scope} {qs : List String} {q r n path name : String}

/-- **A name clashes** if two different paths end in it. -/
theorem mem_clashes_iff : n ∈ (ofPaths qs).clashes ↔ ∃ q ∈ qs, ∃ r ∈ qs,
    anchored q ≠ anchored r ∧ ident (anchored q) = n ∧ ident (anchored r) = n := by
  have hdistinct : (Text.distinct (qs.map anchored)).Nodup :=
    (Text.sorted_distinct _).imp fun {_ _} hlt => String.ne_of_lt hlt
  unfold ofPaths
  rw [List.mem_filter, decide_eq_true_eq, one_lt_count_map_iff hdistinct]
  simp only [List.mem_map, Text.mem_distinct, exists_exists_and_eq_and]
  refine and_iff_right_of_imp ?_
  rintro ⟨q, hq, -, -, -, hn, -⟩
  exact ⟨q, hq, hn⟩

/-- **A path is spelled bare** if its last name does not clash and it begins at no foreign crate. -/
theorem path_eq_imported_iff : s.path q = .ok (.imported path name) ↔
    path = anchored q ∧ spelledName (ident (anchored q)) = .ok name ∧
      ident (anchored q) ∉ s.clashes ∧ isForeign (anchored q) = false := by
  unfold Scope.path
  dsimp only
  split
  · rename_i hwhole
    refine iff_of_false (fun h => ?_) fun ⟨_, _, hfree, hown⟩ => ?_
    · cases hcode : Emit.ofOption (Code.path? (anchored q)) (.invalidPath (anchored q)) <;>
        rw [hcode] at h <;> cases h
    · rw [hown, Bool.or_false] at hwhole
      exact hfree (List.contains_iff_mem.mp hwhole)
  · rename_i hbare
    rw [Bool.or_eq_true_iff, not_or, List.contains_iff_mem, Bool.not_eq_true] at hbare
    cases hname : spelledName (ident (anchored q)) with
    | error o => exact iff_of_false nofun fun ⟨_, h, _⟩ => nomatch h
    | ok m =>
        constructor
        · intro h
          obtain ⟨rfl, rfl⟩ := PathSpelling.imported.inj (Except.ok.inj h)
          exact ⟨rfl, rfl, hbare⟩
        · rintro ⟨rfl, heq, -⟩
          exact congrArg (fun m => Except.ok (PathSpelling.imported _ m)) (Except.ok.inj heq)

/-- Of the paths that were foreseen, no two different ones are spelled bare and end in one name. -/
theorem eq_of_imported {q' r' m : String} (hq : q ∈ qs) (hr : r ∈ qs)
    (hqs : (ofPaths qs).path q = .ok (.imported q' n))
    (hrs : (ofPaths qs).path r = .ok (.imported r' m)) (h : ident q' = ident r') : q' = r' := by
  obtain ⟨rfl, -, hfree, -⟩ := path_eq_imported_iff.mp hqs
  obtain ⟨rfl, -, -, -⟩ := path_eq_imported_iff.mp hrs
  by_contra hne
  exact hfree (mem_clashes_iff.mpr ⟨q, hq, r, hr, hne, rfl, h.symm⟩)

/-- **Every path is a spelling of one that was foreseen.** -/
def Spells (s : Scope) (qs : List String) (ps : List PathSpelling) : Prop :=
  ∀ p ∈ ps, ∃ q ∈ qs, s.path q = .ok p

theorem spells_nil : s.Spells qs [] := fun _ hp => absurd hp List.not_mem_nil

theorem spells_singleton {p : PathSpelling} (hq : q ∈ qs) (h : s.path q = .ok p) :
    s.Spells qs [p] := fun _ hp => List.mem_singleton.mp hp ▸ ⟨q, hq, h⟩

theorem Spells.append {ps rs : List PathSpelling} (hp : s.Spells qs ps) (hr : s.Spells qs rs) :
    s.Spells qs (ps ++ rs) := fun p h => (List.mem_append.mp h).elim (hp p) (hr p)

theorem Spells.mono {rs : List String} {ps : List PathSpelling} (h : s.Spells qs ps)
    (hsub : ∀ q ∈ qs, q ∈ rs) : s.Spells rs ps := fun p hp =>
  have ⟨q, hq, hs⟩ := h p hp
  ⟨q, hsub q hq, hs⟩

theorem paths_orAbsent (nullable : Bool) (t : TypeSpelling) :
    (orAbsent nullable t).paths = t.paths := by
  cases nullable <;> rfl

mutual

/-- **The paths in the spelling of a type** are those of its objects. -/
theorem type_spells (s : Scope) : ∀ t : TypeRef,
    Gives (fun u => s.Spells t.objectPaths u.paths) (s.type t)
  | .scalar _ _ n => (gives_true _).map fun c _ => by
      rw [paths_orAbsent]
      exact spells_nil
  | .object p n => (gives_self _).map fun c hc => by
      rw [paths_orAbsent]
      exact spells_singleton (List.mem_singleton_self p) hc
  | .collection .array e _ => (type_spells s e).map fun c hc => by rwa [paths_orAbsent]
  | .collection .list e _ => (type_spells s e).map fun c hc => by rwa [paths_orAbsent]
  | .collection .sequence e _ => (type_spells s e).map fun c hc => by rwa [paths_orAbsent]
  | .map _ k v _ => (type_spells s k).bind fun _ hk => (type_spells s v).bind fun _ hv =>
      gives_ok (by
        rw [paths_orAbsent]
        exact (hk.mono fun _ => List.mem_append_left _).append
          (hv.mono fun _ => List.mem_append_right _))
  | .tuple es _ => (types_spells s es).map fun c hc => by rwa [paths_orAbsent]

theorem types_spells (s : Scope) : ∀ ts : List TypeRef,
    Gives (fun us => s.Spells (TypeRef.objectPathsOf ts) (TypeSpelling.pathsOf us)) (s.types ts)
  | [] => gives_ok spells_nil
  | t :: ts => (type_spells s t).bind fun _ ht => (types_spells s ts).bind fun _ hts =>
      gives_ok ((ht.mono fun _ => List.mem_append_left _).append
        (hts.mono fun _ => List.mem_append_right _))

end

end Scope

/-! ## 2. Routines -/

namespace Emitter

variable {e : Emitter} {m : PropertyMapping}

/-- The paths that a call names. -/
def callPaths : Strategy → List String
  | .method c => [c.owner]
  | .resolver c => c.source.objectPaths ++ c.destination.objectPaths
  | .delegate _ => []

theorem mem_mentions_of_callPaths {t : Strategy} (ht : t ∈ m.strategies) {q : String}
    (hq : q ∈ callPaths t) : q ∈ m.mentions := by
  refine List.mem_append_right _ (List.mem_flatMap.mpr ⟨t, ht, ?_⟩)
  cases t with
  | method c => exact List.mem_singleton.mp hq ▸ List.mem_cons_self
  | resolver c => exact hq
  | delegate c => exact absurd hq List.not_mem_nil

/-- **A conversion** spells the paths that its strategy names. -/
theorem convert_spells (t : Strategy) (p : Place) (byValue : Bool) :
    Gives (fun v => e.scope.Spells (callPaths t) v.paths) (e.convert (some t) p byValue) := by
  cases t with
  | method c =>
      refine (gives_self _).bind fun owner howner => (gives_true _).bind fun name _ => ?_
      exact (gives_true _).bind fun arguments _ =>
        gives_ok (Scope.spells_singleton (List.mem_singleton_self _) howner)
  | resolver c =>
      refine (gives_true _).bind fun resolver _ => ?_
      refine (e.scope.type_spells c.source).bind fun input hinput => ?_
      refine (e.scope.type_spells c.destination).bind fun output houtput => gives_ok ?_
      exact (hinput.mono fun _ => List.mem_append_left _).append
        (houtput.mono fun _ => List.mem_append_right _)
  | delegate c =>
      refine (gives_true _).bind fun t _ => (gives_true _).bind fun k _ => ?_
      exact (gives_true _).bind fun routine _ => (gives_true _).bind fun arguments _ =>
        gives_ok Scope.spells_nil

theorem property_spells :
    Gives (fun v => e.scope.Spells m.mentions v.paths) (e.property m) :=
  Carries.property {
    read := fun _ _ _ => Scope.spells_nil
    copies := fun _ _ _ _ => Scope.spells_nil
    standsIn := fun v hv => by cases hv <;> exact Scope.spells_nil
    call := fun t ht p byValue _ => (convert_spells t p byValue).imp fun _ hv =>
      hv.mono fun _ => mem_mentions_of_callPaths ht
    present := fun _ hv => hv
    orStandard := fun _ hv => hv
    cases := fun _ _ _ _ _ _ hv hu => hv.append hu
    each := fun _ _ _ _ _ _ _ hv => hv
    entries := fun _ _ _ _ _ _ _ _ _ _ hk hv => hk.append hv
    tuple := fun vs hvs => by
      show e.scope.Spells m.mentions (Value.pathsOf vs)
      induction vs with
      | nil => exact Scope.spells_nil
      | cons v vs ih =>
          rw [List.forall_mem_cons] at hvs
          exact hvs.1.append (ih hvs.2) }

/-- What is foreseen for a mapping: the paths that it mentions itself, those in the types of its
parameters, and the destinations of all mappings that it reaches. -/
structure Foresees (e : Emitter) (qs : List String) : Prop where
  mentions : ∀ q ∈ e.mapping.mentions, q ∈ qs
  parameters : ∀ x ∈ e.mapping.entryParameters, ∀ q ∈ x.ty.objectPaths, q ∈ qs
  destinations : ∀ t k, e.arena.Reaches e.id t → e.arena.get? t = some k → k.destination ∈ qs

variable {qs : List String}

theorem Foresees.source (h : e.Foresees qs) : e.mapping.source ∈ qs :=
  h.mentions _ List.mem_cons_self

theorem Foresees.destination (h : e.Foresees qs) : e.mapping.destination ∈ qs :=
  h.mentions _ (List.mem_cons_of_mem _ List.mem_cons_self)

theorem parameters_spells (h : e.Foresees qs) :
    Gives (fun ps => e.scope.Spells qs (ps.flatMap fun x => x.2.paths)) e.parameters := by
  have hparameters : Gives (List.Forall₂ (fun x y => e.scope.Spells x.ty.objectPaths y.2.paths)
      e.mapping.entryParameters) e.parameters :=
    gives_mapM fun x _ => (gives_true _).bind fun name _ =>
      (e.scope.type_spells x.ty).bind fun type htype => gives_ok htype
  intro ps hps p hp
  obtain ⟨y, hy, hpy⟩ := List.mem_flatMap.mp hp
  obtain ⟨x, hx, hspells⟩ := exists_of_mem_right (hparameters ps hps) hy
  exact hspells.mono (h.parameters x hx) p hpy

theorem resolvers_spells (h : e.Foresees qs) :
    Gives (fun bs => e.scope.Spells qs (bs.map ResolverBinding.type))
      (e.mapping.resolvers.mapM e.resolverBinding) := by
  have hresolvers : Gives (List.Forall₂ (fun r b => e.scope.path r.path = .ok b.type)
      e.mapping.resolvers) (e.mapping.resolvers.mapM e.resolverBinding) :=
    gives_mapM fun r _ => (gives_true _).bind fun name _ => (gives_self _).bind fun type htype =>
      (gives_true _).bind fun arguments _ => gives_ok htype
  intro bs hbs p hp
  obtain ⟨b, hb, rfl⟩ := List.mem_map.mp hp
  obtain ⟨r, hr, hpath⟩ := exists_of_mem_right (hresolvers bs hbs) hb
  have hmention : r.path ∈ e.mapping.mentions := by
    simp only [Mapping.mentions, List.mem_cons, List.mem_append]
    exact .inr (.inr (.inl (.inr (List.mem_map_of_mem hr))))
  exact ⟨r.path, h.mentions _ hmention, hpath⟩

theorem fields_spells (h : e.Foresees qs) :
    Gives (fun fields => e.scope.Spells qs (Value.fieldPaths fields))
      (e.mapping.properties.mapM e.field) := by
  have hfields : Gives (List.Forall₂ (fun m f => e.scope.Spells m.mentions f.2.paths)
      e.mapping.properties) (e.mapping.properties.mapM e.field) :=
    gives_mapM fun m _ => (gives_true _).bind fun name _ =>
      property_spells.bind fun v hv => gives_ok hv
  intro fields hok p hp
  obtain ⟨f, hf, hpf⟩ := (Value.mem_fieldPaths_iff fields).mp hp
  obtain ⟨m, hm, hspells⟩ := exists_of_mem_right (hfields fields hok) hf
  refine hspells.mono (fun q hq => h.mentions q ?_) p ((Value.mem_paths_iff f.2).mpr hpf)
  simp only [Mapping.mentions, List.mem_cons, List.mem_append]
  exact .inr (.inr (.inl (.inl (List.mem_flatMap.mpr ⟨m, hm, hq⟩))))

/-- **The routine of a mapping** spells what is foreseen. -/
theorem primary_spells (h : e.Foresees qs) :
    Gives (fun r => e.scope.Spells qs r.paths) e.primary := by
  refine primary_parts.imp fun r hr => ?_
  have hsource := Scope.spells_singleton h.source hr.source
  have hdestination := Scope.spells_singleton h.destination hr.destination
  exact ((hsource.append (hdestination.append (parameters_spells h _ hr.parameters))).append
    (resolvers_spells h _ hr.resolvers)).append
      (hdestination.append (fields_spells h _ hr.fields))

/-- **The routine over a sequence** spells what is foreseen. -/
theorem sequence_spells (h : e.Foresees qs) :
    Gives (fun r => e.scope.Spells qs r.paths) e.sequence :=
  sequence_parts.imp fun _ hr => (Scope.spells_singleton h.source hr.source).append
    ((Scope.spells_singleton h.destination hr.destination).append
      (parameters_spells h _ hr.parameters))

/-! ## 3. Projections -/

/-- What is laid out in a literal spells what its calls come to. -/
theorem spells_of_lays {inline : Inliner} {S : List DelegateCall} {root : String}
    {us : List (Option DelegateCall)} {v : Value} (h : inline.Lays S root us v)
    (hS : ∀ c ∈ S, ∀ p, Gives (fun w => e.scope.Spells qs w.paths) (inline c p)) :
    e.scope.Spells qs v.paths := by
  induction h with
  | read | copies | tupleNil => exact Scope.spells_nil
  | call hc hv => exact hS _ hc _ _ hv
  | present _ ih | orStandard _ ih | required _ ih => exact ih
  | mapped _ _ _ ih | chained _ _ _ ih | each _ _ _ _ ih => exact ih
  | entries _ _ _ _ _ _ ihk ihv => exact ihk.append ihv
  | tupleCons _ _ ihv ihvs => exact ihv.append ihvs

/-- **The literal of a mapping** spells its destination and those of the mappings that it reaches,
by induction on the levels below. -/
theorem literalFrom_spells (fuel depth : Nat) (id : MappingId) (input : Place)
    (h : ∀ t k, e.arena.Reaches id t → e.arena.get? t = some k → k.destination ∈ qs) :
    Gives (fun v => e.scope.Spells qs v.paths) (e.literalFrom fuel depth id input) := by
  induction fuel generalizing depth id input with
  | zero => exact gives_ok Scope.spells_nil
  | succ fuel ih =>
      unfold literalFrom
      refine (gives_ofOption _ _).bind fun m hm => (gives_self _).bind fun type htype => ?_
      have hcalls (c : DelegateCall) (hc : c ∈ m.delegates) (p : Place) :
          Gives (fun v => e.scope.Spells qs v.paths)
            (e.inlineAt (e.literalFrom fuel (depth + 1)) depth c p) := by
        unfold inlineAt
        refine (gives_ofOption _ _).bind fun t ht => (gives_ofOption _ _).bind fun k _ => ?_
        have hstep : e.arena.Delegates id t := (Arena.delegates_iff_of_get? hm).mpr
          (Arena.mem_targets_iff.mpr ⟨c, hc, ht⟩)
        split
        · exact gives_ok Scope.spells_nil
        · exact (ih _ _ _ fun u l hu => h u l (hu.head hstep)).bind fun v hv => gives_ok hv
      refine (gives_mapM fun p _ => projectedField_fieldOf _ m input depth p).bind
        fun fields hfields => gives_ok ?_
      refine (Scope.spells_singleton (h id m .refl hm) htype).append fun q hq => ?_
      obtain ⟨f, hf, hqf⟩ := (Value.mem_fieldPaths_iff fields).mp hq
      obtain ⟨p, hp, hfield⟩ := exists_of_mem_right hfields hf
      have hpaths : e.scope.Spells qs f.2.paths := by
        unfold FieldOf at hfield
        split at hfield
        · rw [hfield]
          exact Scope.spells_nil
        · refine spells_of_lays hfield fun c hc => hcalls c ?_
          obtain ⟨t, ht, htc⟩ := List.mem_filterMap.mp hc
          exact List.mem_filterMap.mpr
            ⟨t, List.mem_flatMap.mpr ⟨p, List.mem_of_mem_filter hp, ht⟩, htc⟩
      exact hpaths q ((Value.mem_paths_iff f.2).mpr hqf)

/-- **The projection of a mapping** spells what is foreseen. -/
theorem projection_spells (h : e.Foresees qs) :
    Gives (fun r => e.scope.Spells qs r.paths) e.projection :=
  projection_parts.imp fun _ hr => (Scope.spells_singleton h.source hr.source).append
    ((Scope.spells_singleton h.destination hr.destination).append
      (literalFrom_spells _ _ _ _ h.destinations _ hr.body))

/-! ## 4. Modules -/

/-- **A module spells what is foreseen.** -/
theorem module_spells (h : e.Foresees qs) :
    Gives (fun k => e.scope.Spells qs k.paths) e.module := by
  refine module_holds.imp fun k hk => ?_
  have hsequence : e.scope.Spells qs ((k.sequence.map SequenceRoutine.paths).getD []) := by
    cases hr : k.sequence with
    | none => exact Scope.spells_nil
    | some r => exact sequence_spells h r (hk.sequence r hr)
  have hprojection : e.scope.Spells qs ((k.projection.map Projection.paths).getD []) := by
    cases hr : k.projection with
    | none => exact Scope.spells_nil
    | some r => exact projection_spells h r (hk.projection r hr)
  exact ((primary_spells h _ hk.primary).append hsequence).append hprojection

end Emitter

end TypeMapper
